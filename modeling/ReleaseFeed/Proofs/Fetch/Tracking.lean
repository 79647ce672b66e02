import ReleaseFeed.Proofs.Fetch.Receivers

namespace ReleaseFeed.Fetch

variable {identity : BuildIdentity} {engine : Engine} {subscriber : Subscriber} {slot : Nat}

/-- A receiver that is opened behind some operations and kept during later ones. -/
structure Kept (identity : BuildIdentity) (before later : List Operation) (slot : Nat) : Prop where
  opened : ((Engine.after identity before).step identity .subscribe).1 = .slot slot
  kept : .unsubscribe slot ∉ later

/-- What holds of a subscriber that is kept, with what it took out of its mailbox so far. -/
structure Tracks (identity : BuildIdentity) (subscriber : Subscriber) (past now : History)
    (engine : Engine) (got : List Completion) : Prop where
  agrees : Agrees identity engine now
  formed : engine.WellFormed
  mailbox : engine.mailbox? subscriber = some ⟨engine.held subscriber, false⟩
  delivered : ∃ attempts, now.told = past.told ++ attempts ∧
    got ++ engine.held subscriber = attempts.map (Attempt.completion identity)
  listed : subscriber ∈ engine.subscribers ↔ now.isClosed = past.isClosed
  late : past.isClosed = true → now.isClosed = true ∧ now.told = past.told

namespace Tracks

variable {past now : History} {got : List Completion}

theorem joined {operations : List Operation} {other : Engine}
    (agrees : Agrees identity other (History.after identity operations)) (formed : other.WellFormed)
    (mailbox : other.mailbox? subscriber = some .empty)
    (listed : subscriber ∈ other.subscribers) :
    Tracks identity subscriber (History.after identity operations)
      (History.after identity operations) other [] where
  agrees := agrees
  formed := formed
  mailbox := by
    rw [Engine.held_eq mailbox]
    exact mailbox
  delivered := ⟨[], by simp, by simp [Engine.held_eq mailbox, Mailbox.empty]⟩
  listed := iff_of_true listed rfl
  late := fun closed => ⟨closed, rfl⟩

theorem congr {other : Engine} {next : History}
    (tracks : Tracks identity subscriber past now engine got)
    (agrees : Agrees identity other next) (formed : other.WellFormed)
    (spared : engine.Spares subscriber other)
    (told : next.told = now.told) (isClosed : next.isClosed = now.isClosed) :
    Tracks identity subscriber past next other got := by
  have held : other.held subscriber = engine.held subscriber := by
    simp only [Engine.held, spared.mailbox]
  refine ⟨agrees, formed, ?_, ?_, ?_, ?_⟩
  · rw [spared.mailbox, held]
    exact tracks.mailbox
  · rw [told, held]
    exact tracks.delivered
  · rw [spared.listed, isClosed]
    exact tracks.listed
  · rw [isClosed, told]
    exact tracks.late

/-- The engine was open when the subscriber joined if it still is. -/
theorem granting (tracks : Tracks identity subscriber past now engine got)
    (granting : now.isClosed = false) : past.isClosed = false := by
  cases closed : past.isClosed with
  | false => rfl
  | true => exact absurd (tracks.late closed).1 (by simp [granting])

theorem mem_subscribers (tracks : Tracks identity subscriber past now engine got)
    (granting : now.isClosed = false) : subscriber ∈ engine.subscribers :=
  tracks.listed.mpr (granting.trans (tracks.granting granting).symm)

theorem hears {other : Engine} {next : History}
    (tracks : Tracks identity subscriber past now engine got) (granting : now.isClosed = false)
    (agrees : Agrees identity other next) (formed : other.WellFormed) (attempts : List Attempt)
    (told : next.told = now.told ++ attempts)
    (mailbox : other.mailbox? subscriber =
      some ⟨engine.held subscriber ++ attempts.map (Attempt.completion identity), false⟩)
    (listed : subscriber ∈ other.subscribers ↔ next.isClosed = false) :
    Tracks identity subscriber past next other got where
  agrees := agrees
  formed := formed
  mailbox := by rw [Engine.held_eq mailbox, mailbox]
  delivered := by
    obtain ⟨before, earlier, delivered⟩ := tracks.delivered
    refine ⟨before ++ attempts, by rw [told, earlier, List.append_assoc], ?_⟩
    rw [Engine.held_eq mailbox, ← List.append_assoc, delivered, List.map_append]
  listed := by rwa [tracks.granting granting]
  late := by simp [tracks.granting granting]

theorem tell (tracks : Tracks identity subscriber past now engine got) (number : Nat) :
    Tracks identity subscriber past (now.tell number) (engine.tell number) got := by
  have agrees := tracks.agrees.tell number
  have formed := tracks.formed.tell number
  have same := tracks.agrees.find?_untold number
  cases found : now.untold.find? (·.number = number) with
  | none =>
    rw [found, Option.map_none] at same
    simpa only [Engine.tell, same, History.tell, found] using tracks
  | some attempt =>
    rw [found, Option.map_some] at same
    have granting : now.isClosed = false := by
      cases closed : now.isClosed with
      | false => rfl
      | true => simp [tracks.agrees.toldWhenClosed closed] at found
    have listens := Engine.mem_listeners_of_mailbox (tracks.mem_subscribers granting) tracks.mailbox
    simp only [Engine.tell, same, History.tell, found] at agrees formed ⊢
    exact tracks.hears granting agrees formed [attempt] rfl
      (Engine.mailbox_notify (tracks.formed.withUntold _) listens tracks.mailbox _)
      (iff_of_true listens granting)

/-- An engine that closes tells its subscribers of all that is left to tell. -/
theorem close {other : Engine} {next : History}
    (tracks : Tracks identity subscriber past now engine got) (granting : now.isClosed = false)
    (agrees : Agrees identity other.tellAll.close next.tellAll.close)
    (told : next.told = now.told)
    (untold : other.untold = next.untold.map (Attempt.completion identity))
    (formed : other.WellFormed) (spared : engine.Spares subscriber other) :
    Tracks identity subscriber past next.tellAll.close other.tellAll.close got := by
  have listed := spared.listed.mpr (tracks.mem_subscribers granting)
  have mailbox := spared.mailbox.trans tracks.mailbox
  refine tracks.hears granting agrees formed.tellAll.close next.untold (congrArg (· ++ _) told)
    ?_ ?_
  · rw [Engine.mailbox?_close, Engine.mailbox_tellAll formed listed mailbox, untold]
  · simp [Engine.close, History.close]

/-- A silent operation leaves the subscriber alone unless it uses its mailbox. -/
theorem silent (tracks : Tracks identity subscriber past now engine got) {operation : Operation}
    (quiet : operation.isSilent = true) (unused : ¬ operation.Uses subscriber) :
    Tracks identity subscriber past (now.note operation (engine.step identity operation).1)
      (engine.step identity operation).2 got := by
  have held : (engine.mailbox? subscriber).isSome := by simp [tracks.mailbox]
  obtain ⟨told, isClosed⟩ := History.note_of_isSilent quiet now _
  exact tracks.congr (tracks.agrees.step operation) (tracks.formed.step operation)
    (Engine.spares_step held quiet unused) told isClosed

/-- What does not use the mailbox of the subscriber leaves it what it got. -/
theorem step_other (tracks : Tracks identity subscriber past now engine got)
    {operation : Operation} (unused : ¬ operation.Uses subscriber) :
    Tracks identity subscriber past (now.note operation (engine.step identity operation).1)
      (engine.step identity operation).2 got := by
  have agrees := tracks.agrees.step operation
  have opening := tracks.agrees.isOpen
  cases operation with
  | tell number => exact tracks.tell number
  | shutdown response =>
    cases granting : engine.isOpen with
    | true =>
      simp only [Engine.step, Engine.shutdown, granting, if_true] at agrees ⊢
      exact tracks.close (by simpa [granting] using opening) agrees
        (History.told_settle now response) (tracks.agrees.settle response).untold
        (tracks.formed.finish response) (Engine.spares_finish response)
    | false =>
      simp only [Engine.step, Engine.shutdown, granting, Bool.false_eq_true, if_false]
      change Tracks identity subscriber past (now.settle response).tellAll.close engine got
      rw [(tracks.agrees.closed_history granting response).1]
      exact tracks
  | cancel =>
    cases granting : engine.isOpen with
    | true =>
      have cancelled : engine.cancel = ({ engine with inFlight := none }).tellAll.close :=
        if_pos granting
      simp only [Engine.step, cancelled] at agrees ⊢
      exact tracks.close (by simpa [granting] using opening) agrees rfl tracks.agrees.untold
        (tracks.formed.sublist (List.Sublist.refl _) rfl rfl) (Engine.spares_of_eq rfl rfl rfl)
    | false =>
      simp only [Engine.step, Engine.cancel, granting, Bool.false_eq_true, if_false]
      change Tracks identity subscriber past now.abandon.tellAll.close engine got
      rw [(tracks.agrees.closed_history granting .crashed).2]
      exact tracks
  | _ => exact tracks.silent rfl unused

theorem opened {operations : List Operation} :
    Tracks identity (.receiver (Engine.after identity operations).receivers.length)
      (History.after identity operations) (History.after identity operations)
      (Engine.after identity operations).subscribe.2 [] := by
  refine joined ((Agrees.after operations).congr rfl) (Engine.WellFormed.after operations).subscribe
    ?_ ?_
  · simp [Engine.mailbox?, Engine.subscribe]
  · simp [Engine.subscribe]

/-- A receiver itself takes what is oldest, or learns that there is nothing. -/
theorem receive (tracks : Tracks identity (.receiver slot) past now engine got) :
    Tracks identity (.receiver slot) past now (engine.receive slot).2
      (got ++ (taken slot (.receive slot, .received (engine.receive slot).1)).toList) := by
  have mailbox : engine.receivers[slot]? = some ⟨engine.queued slot, false⟩ := tracks.mailbox
  have bound : slot < engine.receivers.length := (List.getElem?_eq_some_iff.mp mailbox).1
  have agrees := tracks.agrees.congr (Engine.core_receive slot)
  have formed := tracks.formed.receive slot
  obtain ⟨attempts, told, delivered⟩ := tracks.delivered
  cases queued : engine.queued slot with
  | nil =>
    rw [queued] at mailbox
    have untaken : taken slot (.receive slot, .received (engine.receive slot).1) = none := by
      rw [Engine.receive_nil mailbox]
      split <;> rfl
    rw [untaken, Engine.receive_nil mailbox]
    simpa using tracks
  | cons completion rest =>
    rw [queued] at mailbox
    rw [Engine.held_receiver, queued] at delivered
    rw [Engine.receive_cons mailbox] at agrees formed ⊢
    have behind : Engine.mailbox?
        { engine with receivers := engine.receivers.set slot ⟨rest, false⟩ } (.receiver slot) =
          some ⟨rest, false⟩ :=
      List.getElem?_set_self bound
    simp only [taken, if_true, Option.toList_some]
    exact {
      agrees := agrees
      formed := formed
      mailbox := by rw [Engine.held_eq behind, behind]
      delivered := ⟨attempts, told, by rw [Engine.held_eq behind]; simpa using delivered⟩
      listed := tracks.listed
      late := tracks.late }

/-- No operation but dropping the receiver loses, doubles or reorders a completion. -/
theorem step (tracks : Tracks identity (.receiver slot) past now engine got) {operation : Operation}
    (kept : operation ≠ .unsubscribe slot) :
    Tracks identity (.receiver slot) past (now.note operation (engine.step identity operation).1)
      (engine.step identity operation).2
      (got ++ (taken slot (operation, (engine.step identity operation).1)).toList) := by
  by_cases own : operation = .receive slot
  · subst own
    exact tracks.receive
  · rw [taken_other own, Option.toList_none, List.append_nil]
    exact tracks.step_other (not_or.mpr ⟨own, kept⟩)

/-- A receiver is tracked for as long as it is kept. -/
theorem run {before later : List Operation} (kept : Kept identity before later slot) :
    Tracks identity (.receiver slot) (History.after identity before)
      (History.after identity (before ++ .subscribe :: later))
      (Engine.after identity (before ++ .subscribe :: later))
      (handedOut slot (Engine.trace identity (before ++ .subscribe :: later))) := by
  obtain ⟨opened, kept⟩ := kept
  have first : (Engine.after identity before).receivers.length = slot := by
    cases opened
    rfl
  subst first
  induction later using List.reverseRecOn with
  | nil =>
    rw [Engine.after_concat, History.after_concat, Engine.trace_concat, handedOut_concat,
      handedOut_of_unopened before (Nat.le_refl _)]
    exact Tracks.opened
  | append_singleton later operation ih =>
    simp only [List.mem_append, List.mem_singleton, not_or] at kept
    have tracks := (ih kept.1).step (Ne.symm kept.2)
    have behind : before ++ .subscribe :: (later ++ [operation]) =
        (before ++ .subscribe :: later) ++ [operation] := by simp
    rw [behind, Engine.after_concat, History.after_concat, Engine.trace_concat, handedOut_concat]
    exact tracks

end Tracks
end ReleaseFeed.Fetch
