import Mathlib.Data.Finset.Dedup
import Mathlib.Data.Finset.Card
import Mathlib.Data.List.Induction
import ReleaseFeed.Wrap.Cache
/-!
The cache of wrapped texts against the calls made on it. Main statement: after any calls the cache
is a function of the requests since the last clear, so that no answer depends on what is stored.
-/
namespace ReleaseFeed.WrapCache

variable {calls before : List Call} {call : Call} {text : List Char} {width : Nat}
  {earlier : List (List Char × Nat)}

/-- The text and the width that a call asks for. -/
def Call.request? : Call → Option (List Char × Nat)
  | .wrap text width => some (text, width)
  | .wrapped item width => some (item.body.toList, width)
  | .clear => none

/-- The requests since the last clear, the latest first. -/
def requests (calls : List Call) : List (List Char × Nat) :=
  calls.foldl (fun earlier call => (call.request?.map (· :: earlier)).getD []) []

/-- The texts of the latest requests, as far back as all of them have a width. -/
def textsAt (width : Nat) (requests : List (List Char × Nat)) : List (List Char) :=
  (requests.takeWhile (·.2 == width)).map (·.1)

/-- Whether a text was asked for at a width, and after that nothing but texts at that width. -/
def Kept (calls : List Call) (text : List Char) (width : Nat) : Prop :=
  ∃ before call between, calls = before ++ call :: between ∧ call.request? = some (text, width) ∧
    ∀ other ∈ between, ∃ text, other.request? = some (text, width)

/-- The cache that requests leave behind, the latest first: every text once. -/
def ofRequests (requests : List (List Char × Nat)) : WrapCache :=
  ⟨requests.head?.map fun latest =>
    (latest.2, (textsAt latest.2 requests).dedup.map fun text => (text, Wrap.wrapText text latest.2))⟩

theorem requests_append_of_request (asks : call.request? = some (text, width)) :
    requests (calls ++ [call]) = (text, width) :: requests calls := by
  simp [requests, asks]

theorem requests_append_of_clear (silent : call.request? = none) :
    requests (calls ++ [call]) = [] := by
  simp [requests, silent]

theorem textsAt_cons_self :
    textsAt width ((text, width) :: earlier) = text :: textsAt width earlier := by
  simp [textsAt]

theorem textsAt_cons_of_ne {other : Nat} (different : other ≠ width) :
    textsAt width ((text, other) :: earlier) = [] := by
  simp [textsAt, different]

theorem bodiesAt_ofRequests (earlier : List (List Char × Nat)) (width : Nat) :
    (ofRequests earlier).bodiesAt width =
      (textsAt width earlier).dedup.map fun text => (text, Wrap.wrapText text width) := by
  cases earlier with
  | nil => rfl
  | cons latest before =>
    obtain ⟨text, other⟩ := latest
    by_cases same : other = width
    · subst same
      simp [bodiesAt, ofRequests]
    · simp [bodiesAt, ofRequests, same, textsAt_cons_of_ne]

section Lookup

variable {texts : List (List Char)} {f : List Char → List Char}

theorem lookup_map_of_mem (found : text ∈ texts) :
    (texts.map fun text => (text, f text)).lookup text = some (f text) := by
  induction texts with
  | nil => cases found
  | cons head rest ih =>
    by_cases same : text = head
    · subst same
      simp
    · have later : text ∈ rest := (List.mem_cons.mp found).resolve_left same
      simpa [List.lookup_cons, beq_false_of_ne same] using ih later

theorem lookup_map_of_not_mem (missing : text ∉ texts) :
    (texts.map fun text => (text, f text)).lookup text = none := by
  rw [List.lookup_eq_none_iff]
  intro body member
  obtain ⟨other, inside, rfl⟩ := List.mem_map.mp member
  apply bne_iff_ne.mpr
  rintro rfl
  exact missing inside

end Lookup

/-- A request is answered with the wrapped text, and joins the requests. -/
theorem wrap_ofRequests (earlier : List (List Char × Nat)) (text : List Char) (width : Nat) :
    (ofRequests earlier).wrap text width =
      (⟨Wrap.wrapText text width, decide (text ∈ textsAt width earlier)⟩,
        ofRequests ((text, width) :: earlier)) := by
  by_cases known : text ∈ textsAt width earlier
  · have found := lookup_map_of_mem (f := (Wrap.wrapText · width)) (List.mem_dedup.mpr known)
    simp only [wrap, bodiesAt_ofRequests, found]
    simp [known, ofRequests, textsAt_cons_self, List.dedup_cons_of_mem known]
  · have missing := lookup_map_of_not_mem (f := (Wrap.wrapText · width))
      (fun member => known (List.mem_dedup.mp member))
    simp only [wrap, bodiesAt_ofRequests, missing]
    simp [known, ofRequests, textsAt_cons_self, List.dedup_cons_of_notMem known]

theorem step_of_request (cache : WrapCache) (asks : call.request? = some (text, width)) :
    cache.step call = (some (cache.wrap text width).1, (cache.wrap text width).2) := by
  cases call with
  | wrap text width => cases asks; rfl
  | wrapped item width => cases asks; rfl
  | clear => cases asks

theorem step_of_clear (cache : WrapCache) (silent : call.request? = none) :
    cache.step call = (none, empty) := by
  cases call with
  | wrap text width => cases silent
  | wrapped item width => cases silent
  | clear => rfl

/-- What is stored is a function of the requests since the last clear. -/
theorem after_empty (calls : List Call) : empty.after calls = ofRequests (requests calls) := by
  induction calls using List.reverseRecOn with
  | nil => rfl
  | append_singleton calls call ih =>
    have last : empty.after (calls ++ [call]) = ((empty.after calls).step call).2 := by
      simp [after]
    rw [last, ih]
    cases asks : call.request? with
    | none => rw [step_of_clear _ asks, requests_append_of_clear asks]; rfl
    | some request =>
      obtain ⟨text, width⟩ := request
      rw [step_of_request _ asks, requests_append_of_request asks, wrap_ofRequests]

theorem answers_append (cache : WrapCache) (first second : List Call) :
    cache.answers (first ++ second) = cache.answers first ++ (cache.after first).answers second := by
  induction first generalizing cache with
  | nil => rfl
  | cons call rest ih => simp [answers, ih, after]

theorem length_answers (cache : WrapCache) (calls : List Call) :
    (cache.answers calls).length = calls.length := by
  induction calls generalizing cache with
  | nil => rfl
  | cons call rest ih => simp [answers, ih]

theorem not_kept_nil : ¬ Kept [] text width := by
  rintro ⟨before, call, between, split, _⟩
  exact List.append_ne_nil_of_right_ne_nil _ (List.cons_ne_nil _ _) split.symm

theorem kept_append_singleton_iff : Kept (calls ++ [call]) text width ↔
    ∃ latest, call.request? = some (latest, width) ∧ (text = latest ∨ Kept calls text width) := by
  constructor
  · rintro ⟨before, first, between, split, asks, same⟩
    cases between using List.reverseRecOn with
    | nil =>
      obtain ⟨rfl, rfl⟩ := List.append_singleton_inj.mp split
      exact ⟨text, asks, .inl rfl⟩
    | append_singleton between last =>
      rw [← List.cons_append, ← List.append_assoc] at split
      obtain ⟨rfl, rfl⟩ := List.append_singleton_inj.mp split
      obtain ⟨latest, asked⟩ := same call (by simp)
      exact ⟨latest, asked, .inr ⟨before, first, between, rfl, asks,
        fun other member => same other (by simp [member])⟩⟩
  · rintro ⟨latest, asks, rfl | ⟨before, first, between, rfl, asked, same⟩⟩
    · exact ⟨calls, call, [], rfl, asks, by simp⟩
    · refine ⟨before, first, between ++ [call], by simp, asked, ?_⟩
      intro other member
      rcases List.mem_append.mp member with inside | last
      · exact same other inside
      · obtain rfl := List.mem_singleton.mp last
        exact ⟨latest, asks⟩

/-- The kept texts are those of the latest requests at their width. -/
theorem kept_iff_mem : Kept calls text width ↔ text ∈ textsAt width (requests calls) := by
  induction calls using List.reverseRecOn with
  | nil => exact iff_of_false not_kept_nil (by simp [requests, textsAt])
  | append_singleton calls call ih =>
    rw [kept_append_singleton_iff]
    cases asks : call.request? with
    | none => simp [requests_append_of_clear asks, textsAt]
    | some request =>
      obtain ⟨latest, other⟩ := request
      rw [requests_append_of_request asks]
      by_cases same : other = width
      · subst same
        simp [textsAt_cons_self, ih]
      · simp [textsAt_cons_of_ne same, same]

/-- What calls on a fresh cache lead to. -/
structure Transparent (calls : List Call) : Prop where
  /-- Every request is answered with the wrapped text, and hits exactly the kept texts. -/
  answer : ∀ before call rest text width, calls = before ++ call :: rest →
    call.request? = some (text, width) →
      ∃ answer, (empty.answers calls)[before.length]? = some (some answer) ∧
        answer.text = Wrap.wrapText text width ∧ (answer.hit = true ↔ Kept before text width)
  /-- The reported width is that of the last request since the last clear. -/
  width : (empty.after calls).width? = (requests calls).head?.map (·.2)
  /-- The reported size counts the kept texts. -/
  size : ∃ texts : Finset (List Char), (empty.after calls).size = texts.card ∧
    ∀ text, text ∈ texts ↔ ∃ width, Kept calls text width
  /-- Nothing is stored but kept texts, wrapped at the reported width. -/
  bodies : ∀ width bodies, (empty.after calls).stored = some (width, bodies) →
    ∀ text wrapped, (text, wrapped) ∈ bodies →
      Kept calls text width ∧ wrapped = Wrap.wrapText text width

/-- An answer in the middle of calls depends on the requests before it only. -/
theorem answer_of_request {rest : List Call} (asks : call.request? = some (text, width)) :
    (empty.answers (before ++ call :: rest))[before.length]? =
      some (some ⟨Wrap.wrapText text width, decide (text ∈ textsAt width (requests before))⟩) := by
  have same := length_answers empty before
  rw [answers_append, List.getElem?_append_right (Nat.le_of_eq same), same, after_empty]
  simp [answers, step_of_request _ asks, wrap_ofRequests]

theorem transparent (calls : List Call) : Transparent calls := by
  refine ⟨?_, ?_, ?_, ?_⟩
  · rintro before call rest text width rfl asks
    refine ⟨_, answer_of_request asks, rfl, ?_⟩
    rw [kept_iff_mem, decide_eq_true_iff]
  · rw [after_empty]
    simp [width?, ofRequests, Function.comp_def]
  · rw [after_empty]
    cases latest : requests calls with
    | nil =>
      refine ⟨∅, rfl, fun text => ?_⟩
      simp [kept_iff_mem, latest, textsAt]
    | cons request earlier =>
      obtain ⟨last, width⟩ := request
      refine ⟨(textsAt width (requests calls)).toFinset, ?_, fun text => ?_⟩
      · simp [size, ofRequests, List.card_toFinset, latest]
      · rw [List.mem_toFinset, ← kept_iff_mem]
        refine ⟨fun kept => ⟨width, kept⟩, ?_⟩
        rintro ⟨other, kept⟩
        by_cases same : width = other
        · exact same ▸ kept
        · rw [kept_iff_mem, latest, textsAt_cons_of_ne same] at kept
          cases kept
  · intro width bodies stored text wrapped member
    have found : (text, wrapped) ∈ (empty.after calls).bodiesAt width := by
      simpa [bodiesAt, stored] using member
    rw [after_empty, bodiesAt_ofRequests] at found
    obtain ⟨other, inside, same⟩ := List.mem_map.mp found
    cases same
    exact ⟨kept_iff_mem.mpr (List.mem_dedup.mp inside), rfl⟩

end ReleaseFeed.WrapCache
