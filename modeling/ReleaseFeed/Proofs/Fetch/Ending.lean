import ReleaseFeed.Fetch.Retrieval
import ReleaseFeed.Proofs.Channel.Acceptance

namespace ReleaseFeed.Fetch

variable {identity : BuildIdentity}

/-- An attempt fails at the first stage that its response does not pass; one that passes all of
them gives the channels of its manifest. -/
inductive Ends (identity : BuildIdentity) : Response → Except Outcome (List Channel) → Prop where
  | unreachable (error : TransportError) :
      Ends identity (.failed error) (.error .connectionFailed)
  | crashed : Ends identity .crashed (.error .connectionFailed)
  | malformed {bytes : List UInt8} {error : PayloadError}
      (unread : Manifest.parse bytes = .error error) :
      Ends identity (.payload bytes) (.error .invalidData)
  | badVersion {bytes : List UInt8} {manifest : Manifest} {text : String}
      {error : VersionNumber.ParseError} (parsed : Manifest.parse bytes = .ok manifest)
      (member : text ∈ manifest.versionTexts) (bad : VersionNumber.parse text = .error error) :
      Ends identity (.payload bytes) (.error .invalidData)
  | usable {bytes : List UInt8} {manifest : Manifest} {channels : List Channel}
      (parsed : Manifest.parse bytes = .ok manifest)
      (built : Channel.ofManifest identity.marker manifest = .ok channels) :
      Ends identity (.payload bytes) (.ok channels)

theorem channelsOf_of_parse_ok {bytes : List UInt8} {manifest : Manifest}
    (parsed : Manifest.parse bytes = .ok manifest) :
    channelsOf identity bytes = Channel.ofManifest identity.marker manifest := by
  simp [channelsOf, parsed, bind, Except.bind]

theorem retrieve_of_refused {bytes : List UInt8} {error : PayloadError}
    (refused : channelsOf identity bytes = .error error) :
    retrieve identity (.payload bytes) = .error .invalidData := by
  simp only [retrieve, refused]
  rfl

theorem Ends.retrieve_eq {response : Response} {result : Except Outcome (List Channel)}
    (ends : Ends identity response result) : retrieve identity response = result := by
  cases ends with
  | unreachable error => rfl
  | crashed => rfl
  | @malformed bytes error unread =>
    have refused : channelsOf identity bytes = .error error := by
      simp [channelsOf, unread, bind, Except.bind]
    exact retrieve_of_refused refused
  | badVersion parsed member bad =>
    obtain ⟨refusal, refused⟩ : ∃ error, Channel.ofManifest identity.marker _ = .error error :=
      Channel.exists_ofManifest_eq_error_iff.mpr ⟨_, member, _, bad⟩
    exact retrieve_of_refused ((channelsOf_of_parse_ok parsed).trans refused)
  | usable parsed built =>
    simp only [retrieve, channelsOf_of_parse_ok parsed, built]
    rfl

/-- Every attempt ends at one of the stages. -/
theorem exists_ends (response : Response) : ∃ result, Ends identity response result := by
  cases response with
  | failed error => exact ⟨_, .unreachable error⟩
  | crashed => exact ⟨_, .crashed⟩
  | payload bytes =>
    cases parsed : Manifest.parse bytes with
    | error error => exact ⟨_, .malformed parsed⟩
    | ok manifest =>
      cases built : Channel.ofManifest identity.marker manifest with
      | ok channels => exact ⟨_, .usable parsed built⟩
      | error error =>
        obtain ⟨text, member, reason, bad⟩ :=
          Channel.exists_ofManifest_eq_error_iff.mp ⟨error, built⟩
        exact ⟨_, .badVersion parsed member bad⟩

end ReleaseFeed.Fetch
