import ReleaseFeed.Proofs.Json.Spelling

namespace ReleaseFeed.Json

open Text.Utf8 (Repairs repairs_ascii repairs_byte)

section Tokens

variable {blanks bytes rest : List UInt8}

theorem exists_blanks (left : skipBlank bytes = rest) :
    ∃ blanks, Blank blanks ∧ bytes = blanks ++ rest := by
  refine ⟨bytes.takeWhile isBlank, fun _ inside => List.mem_takeWhile_imp inside, ?_⟩
  rw [← left, skipBlank, List.takeWhile_append_dropWhile]

theorem Blank.append {others : List UInt8} (blank : Blank blanks) (more : Blank others) :
    Blank (blanks ++ others) := by
  intro byte inside
  rcases List.mem_append.mp inside with first | second
  · exact blank byte first
  · exact more byte second

theorem Blank.ascii (blank : Blank blanks) : ∀ byte ∈ blanks, byte.toNat < 0x80 := by
  intro byte inside
  rcases isBlank_iff.mp (blank byte inside) with rfl | rfl | rfl | rfl <;> decide

theorem exists_blanks_of_expectColon (taken : expectColon bytes = .ok rest) :
    ∃ blanks, Blank blanks ∧ bytes = blanks ++ colon :: rest := by
  unfold expectColon at taken
  split at taken
  · cases taken
  · rename_i left
    obtain rfl := Except.ok.inj taken
    exact exists_blanks left
  · cases taken

theorem eq_of_expectWord {word : List UInt8} (taken : expectWord word bytes = .ok rest) :
    bytes = word ++ rest := by
  induction word generalizing bytes with
  | nil =>
    cases bytes <;> exact Except.ok.inj taken
  | cons letter word ih =>
    cases bytes with
    | nil => cases taken
    | cons byte bytes =>
      rw [expectWord] at taken
      split at taken
      · rename_i same
        rw [beq_iff_eq.mp same, ih taken]
        rfl
      · cases taken

end Tokens

/-- What stands ahead of a member: blanks, and a comma unless it is the first. -/
inductive Gap : Bool → List UInt8 → Prop where
  | first {blanks : List UInt8} (blank : Blank blanks) : Gap true blanks
  | next {behind ahead : List UInt8} (blankBehind : Blank behind) (blankAhead : Blank ahead) :
      Gap false (behind ++ comma :: ahead)

section Gap

variable {isFirst : Bool} {gap blanks : List UInt8}

theorem Gap.append_blank (apart : Gap isFirst gap) (blank : Blank blanks) :
    Gap isFirst (gap ++ blanks) := by
  cases apart with
  | first before => exact .first (before.append blank)
  | next before behind =>
    rw [List.append_assoc, List.cons_append]
    exact .next before (behind.append blank)

theorem Gap.ascii (apart : Gap isFirst gap) : ∀ byte ∈ gap, byte.toNat < 0x80 := by
  cases apart with
  | first blank => exact blank.ascii
  | next before behind =>
    rw [List.forall_mem_append]
    exact ⟨before.ascii, List.forall_mem_cons.mpr ⟨by decide, behind.ascii⟩⟩

theorem Gap.listed {α : Type} {writes : α → List UInt8 → Prop} {member : α} {members : List α}
    {bytes rest : List UInt8} (apart : Gap isFirst gap) (written : writes member bytes)
    (others : Listed writes false members rest) :
    Listed writes isFirst (member :: members) (gap ++ (bytes ++ rest)) := by
  cases apart with
  | first blank => exact .first blank written others
  | next before behind =>
    rw [List.append_assoc, List.cons_append]
    exact .next before behind written others

end Gap

section Stands

variable {α : Type}

/-- Something written at the front of bytes, behind blanks and up to repair. -/
inductive Stands (writes : α → List UInt8 → Prop) (member : α) (bytes rest : List UInt8) :
    Prop where
  | of {blanks written fixed : List UInt8} (shape : bytes = blanks ++ (written ++ rest))
      (blank : Blank blanks) (repairs : Repairs written fixed) (writes : writes member fixed)

/-- Listed members at the front of bytes, up to repair. -/
inductive StandsAll (writes : α → List UInt8 → Prop) (isFirst : Bool) (members : List α)
    (bytes rest : List UInt8) : Prop where
  | of {written fixed : List UInt8} (shape : bytes = written ++ rest)
      (repairs : Repairs written fixed) (listed : Listed writes isFirst members fixed)

variable {writes : α → List UInt8 → Prop} {member : α} {members : List α}
  {isFirst : Bool} {blanks gap bytes left rest : List UInt8}

theorem Stands.behind (stands : Stands writes member bytes rest) (blank : Blank blanks) :
    Stands writes member (blanks ++ bytes) rest := by
  obtain ⟨rfl, before, repairs, written⟩ := stands
  exact .of (List.append_assoc ..).symm (blank.append before) repairs written

theorem stands_ascii (written : writes member bytes)
    (ascii : ∀ byte ∈ bytes, byte.toNat < 0x80) : Stands writes member (bytes ++ rest) rest :=
  .of (List.nil_append _).symm blank_nil (repairs_ascii ascii) written

theorem stands_word (written : writes member bytes)
    (ascii : (bytes.all fun byte => byte.toNat < 0x80) = true) :
    Stands writes member (bytes ++ rest) rest :=
  stands_ascii written (by simpa using ascii)

theorem standsAll_nil (blank : Blank blanks) :
    StandsAll writes isFirst [] (blanks ++ rest) rest :=
  .of rfl (repairs_ascii blank.ascii) (.nil blank)

theorem Stands.all (stands : Stands writes member bytes left) (apart : Gap isFirst gap)
    (others : StandsAll writes false members left rest) :
    StandsAll writes isFirst (member :: members) (gap ++ bytes) rest := by
  obtain ⟨rfl, blank, repairs, written⟩ := stands
  obtain ⟨rfl, repairsLater, listed⟩ := others
  have wider := apart.append_blank blank
  refine .of ?_ ((repairs_ascii wider.ascii).append (repairs.append repairsLater))
    (wider.listed written listed)
  simp

/-- What is written between an opening and a closing byte. -/
theorem stands_enclosed {opening closing : UInt8} {written fixed : List UInt8}
    (ascii : opening.toNat < 0x80)
    (repairs : Repairs (written ++ [closing]) (fixed ++ [closing]))
    (enclosed : writes member (opening :: (fixed ++ [closing]))) :
    Stands writes member (opening :: (written ++ closing :: rest)) rest := by
  have shape : opening :: (written ++ closing :: rest) =
      [] ++ (opening :: (written ++ [closing]) ++ rest) := by simp
  exact .of shape blank_nil (repairs.cons ascii) enclosed

theorem StandsAll.array {elements : List Value}
    (stands : StandsAll Writes true elements bytes (closeArray :: rest)) :
    Stands Writes (.array elements) (openArray :: bytes) rest := by
  obtain ⟨rfl, repairs, listed⟩ := stands
  exact stands_enclosed (by decide) (repairs.append (repairs_byte (by decide))) (.array listed)

theorem StandsAll.object {members : Members}
    (stands : StandsAll WritesMember true members bytes (closeObject :: rest)) :
    Stands Writes (.object members) (openObject :: bytes) rest := by
  obtain ⟨rfl, repairs, listed⟩ := stands
  exact stands_enclosed (by decide) (repairs.append (repairs_byte (by decide))) (.object listed)

theorem Spelled.stands {literal : Literal} (spelled : Spelled literal bytes rest) :
    Stands Writes (.string literal) (quote :: bytes) rest := by
  obtain ⟨rfl, repairs⟩ := spelled
  exact stands_enclosed (by decide) repairs (.string literal)

theorem Spelled.stands_member {key : Literal} {value : Value}
    (spelled : Spelled key bytes (blanks ++ colon :: left)) (blank : Blank blanks)
    (stands : Stands Writes value left rest) :
    Stands WritesMember (key, value) (quote :: bytes) rest := by
  obtain ⟨rfl, repairs⟩ := spelled
  obtain ⟨rfl, blankAhead, repairsValue, writes⟩ := stands
  rename_i raw ahead written fixed
  have placed := (repairs_ascii blankAhead.ascii).append repairsValue
  have behind := (repairs_ascii blank.ascii).append (placed.cons (by decide : colon.toNat < 0x80))
  have whole := (repairs.append behind).cons (by decide : quote.toNat < 0x80)
  have shape : quote :: (raw ++ quote :: (blanks ++ colon :: (ahead ++ (written ++ rest)))) =
      [] ++ (quote :: (raw ++ quote :: (blanks ++ colon :: (ahead ++ written))) ++ rest) := by simp
  refine .of shape blank_nil ?_ (.of key blank blankAhead writes)
  simpa using whole

end Stands

section Numbers

variable {bytes rest : List UInt8}

theorem exists_digit {byte : UInt8} (digit : isDigit byte = true) :
    ∃ value, digitByte value = byte := by
  obtain ⟨low, high⟩ := isDigit_iff.mp digit
  refine ⟨⟨byte.toNat - 0x30, by omega⟩, UInt8.toNat_inj.mp ?_⟩
  rw [digitByte, Text.Utf8.toNat_ofNat_of_lt] <;> dsimp only <;> omega

theorem exists_digits (bytes : List UInt8) :
    ∃ digits : List (Fin 10), bytes = digits.map digitByte ++ bytes.dropWhile isDigit := by
  induction bytes with
  | nil => exact ⟨[], rfl⟩
  | cons byte bytes ih =>
    by_cases digit : isDigit byte = true
    · obtain ⟨value, rfl⟩ := exists_digit digit
      obtain ⟨digits, same⟩ := ih
      refine ⟨value :: digits, ?_⟩
      rw [List.dropWhile_cons_of_pos digit, List.map_cons, List.cons_append, ← same]
    · exact ⟨[], (List.dropWhile_cons_of_neg digit).symm⟩

theorem exists_digits_of_isDigit {first : UInt8} (digit : isDigit first = true)
    (behind : List UInt8) :
    ∃ digits : Digits, first :: behind = digits.bytes ++ behind.dropWhile isDigit := by
  obtain ⟨value, rfl⟩ := exists_digit digit
  obtain ⟨others, same⟩ := exists_digits behind
  exact ⟨⟨value, others⟩, congrArg (digitByte value :: ·) same⟩

theorem exists_exponent (skipped : skipExponent bytes = .ok rest) :
    ∃ sign digits, ∀ isCapital,
      bytes = (Exponent.mk isCapital sign digits).sign ++ (digits.bytes ++ rest) := by
  unfold skipExponent at skipped
  extract_lets unsigned at skipped
  generalize start : unsigned = behind at skipped
  split at skipped
  · cases skipped
  split at skipped
  · rename_i first others digit
    obtain rfl := Except.ok.inj skipped
    obtain ⟨digits, shape⟩ := exists_digits_of_isDigit digit others
    rw [shape] at start
    unfold unsigned at start
    split at start
    · exact ⟨some false, digits, fun _ => congrArg (plus :: ·) start⟩
    · exact ⟨some true, digits, fun _ => congrArg (minus :: ·) start⟩
    · exact ⟨none, digits, fun _ => start⟩
  · cases skipped

theorem exists_mark {byte : UInt8} (mark : isExponentMark byte = true) :
    ∃ isCapital : Bool, byte = if isCapital then 0x45 else 0x65 := by
  simp only [isExponentMark, Bool.or_eq_true, beq_iff_eq] at mark
  rcases mark with rfl | rfl
  · exact ⟨false, rfl⟩
  · exact ⟨true, rfl⟩

theorem exists_scale (skipped : skipScale bytes = .ok rest) :
    ∃ exponent : Option Exponent, bytes = exponent.elim [] Exponent.bytes ++ rest := by
  unfold skipScale at skipped
  split at skipped
  · exact ⟨none, Except.ok.inj skipped⟩
  split at skipped
  · rename_i mark
    obtain ⟨isCapital, rfl⟩ := exists_mark mark
    obtain ⟨sign, digits, shape⟩ := exists_exponent skipped
    refine ⟨some ⟨isCapital, sign, digits⟩, ?_⟩
    rw [shape isCapital]
    simp [Exponent.bytes, Exponent.mark]
  · exact ⟨none, Except.ok.inj skipped⟩

theorem exists_tail (skipped : skipNumberTail bytes = .ok rest) :
    ∃ (fraction : Option Digits) (exponent : Option Exponent),
      bytes = (fraction.elim [] fun digits => point :: digits.bytes) ++
        exponent.elim [] Exponent.bytes ++ rest := by
  unfold skipNumberTail at skipped
  split at skipped
  · unfold skipFraction at skipped
    split at skipped
    · cases skipped
    split at skipped
    · rename_i digit
      obtain ⟨exponent, scale⟩ := exists_scale skipped
      obtain ⟨digits, shape⟩ := exists_digits_of_isDigit digit _
      refine ⟨some digits, exponent, ?_⟩
      rw [shape, scale]
      simp
    · cases skipped
  · obtain ⟨exponent, rfl⟩ := exists_scale skipped
    exact ⟨none, exponent, rfl⟩

theorem exists_number (skipped : skipNumber bytes = .ok rest) (isNegative : Bool) :
    ∃ literal : NumberLiteral,
      literal.bytes ++ rest = (if isNegative then [minus] else []) ++ bytes := by
  unfold skipNumber at skipped
  split at skipped
  · cases skipped
  · split at skipped
    · cases skipped
    · obtain ⟨fraction, exponent, rfl⟩ := exists_tail skipped
      refine ⟨⟨isNegative, ⟨0, []⟩, fraction, exponent, fun _ => rfl⟩, ?_⟩
      simp [NumberLiteral.bytes, NumberLiteral.tail, Digits.bytes, digitByte]
  · rename_i first behind notZero
    split at skipped
    · rename_i digit
      obtain ⟨fraction, exponent, tail⟩ := exists_tail skipped
      obtain ⟨digits, shape⟩ := exists_digits_of_isDigit digit behind
      have noLeadingZero : digits.first = 0 → digits.rest = [] := by
        intro zero
        have same : first = digitByte digits.first := (List.cons.inj shape).1
        rw [zero] at same
        exact absurd same notZero
      refine ⟨⟨isNegative, digits, fraction, exponent, noLeadingZero⟩, ?_⟩
      rw [shape, tail]
      simp [NumberLiteral.bytes, NumberLiteral.tail]
    · cases skipped

theorem Digits.ascii (digits : Digits) : ∀ byte ∈ digits.bytes, byte.toNat < 0x80 := by
  have small : ∀ digit, (digitByte digit).toNat < 0x80 := by decide
  simp [bytes, small]

theorem Exponent.ascii (exponent : Exponent) : ∀ byte ∈ exponent.bytes, byte.toNat < 0x80 := by
  have mark : exponent.mark.toNat < 0x80 := by
    unfold Exponent.mark
    split <;> decide
  have sign : ∀ byte ∈ exponent.sign, byte.toNat < 0x80 := by
    unfold Exponent.sign
    split
    · exact List.forall_mem_nil _
    · exact List.forall_mem_singleton.mpr (by decide)
    · exact List.forall_mem_singleton.mpr (by decide)
  exact List.forall_mem_cons.mpr ⟨mark, List.forall_mem_append.mpr ⟨sign, exponent.digits.ascii⟩⟩

theorem NumberLiteral.ascii (literal : NumberLiteral) :
    ∀ byte ∈ literal.bytes, byte.toNat < 0x80 := by
  have sign : ∀ byte ∈ if literal.isNegative then [minus] else [], byte.toNat < 0x80 := by
    split
    · exact List.forall_mem_singleton.mpr (by decide)
    · exact List.forall_mem_nil _
  have fraction : ∀ byte ∈ literal.fraction.elim [] fun digits => point :: digits.bytes,
      byte.toNat < 0x80 := by
    cases literal.fraction with
    | none => simp
    | some digits => exact List.forall_mem_cons.mpr ⟨by decide, digits.ascii⟩
  have exponent : ∀ byte ∈ literal.exponent.elim [] Exponent.bytes, byte.toNat < 0x80 := by
    cases literal.exponent with
    | none => simp
    | some exponent => exact exponent.ascii
  refine List.forall_mem_append.mpr ⟨sign, List.forall_mem_append.mpr ⟨literal.whole.ascii, ?_⟩⟩
  exact List.forall_mem_append.mpr ⟨fraction, exponent⟩

end Numbers

section Skipping

variable {bytes rest : List UInt8} {fuel : Nat}

theorem exists_scalar {first : UInt8} (skipped : skipScalar first bytes = .ok rest) :
    ∃ value, Stands Writes value (first :: bytes) rest := by
  unfold skipScalar at skipped
  split at skipped
  · rw [eq_of_expectWord skipped]
    exact ⟨.null, stands_word Writes.null (by decide)⟩
  · rw [eq_of_expectWord skipped]
    exact ⟨.boolean true, stands_word (Writes.boolean true) (by decide)⟩
  · rw [eq_of_expectWord skipped]
    exact ⟨.boolean false, stands_word (Writes.boolean false) (by decide)⟩
  · obtain ⟨literal, shape⟩ := exists_number skipped true
    refine ⟨.number literal, ?_⟩
    change Stands Writes _ ((if true then [minus] else []) ++ bytes) rest
    rw [← shape]
    exact stands_ascii (.number literal) literal.ascii
  · obtain ⟨literal, spelled⟩ := exists_spelled_of_skipString skipped
    exact ⟨_, spelled.stands⟩
  · split at skipped
    · obtain ⟨literal, shape⟩ := exists_number skipped false
      refine ⟨.number literal, ?_⟩
      change Stands Writes _ ((if false then [minus] else []) ++ first :: bytes) rest
      rw [← shape]
      exact stands_ascii (.number literal) literal.ascii
    · cases skipped

theorem exists_key (skipped : skipKey bytes = .ok rest) :
    ∃ ahead key blanks left, bytes = ahead ++ quote :: left ∧ Blank ahead ∧
      Spelled key left (blanks ++ colon :: rest) ∧ Blank blanks := by
  unfold skipKey at skipped
  split at skipped
  · cases skipped
  · rename_i left
    obtain ⟨ahead, blankAhead, rfl⟩ := exists_blanks left
    rw [bind_eq_ok_iff] at skipped
    obtain ⟨left, skipped, taken⟩ := skipped
    obtain ⟨blanks, blank, rfl⟩ := exists_blanks_of_expectColon taken
    obtain ⟨key, spelled⟩ := exists_spelled_of_skipString skipped
    exact ⟨ahead, key, blanks, _, rfl, blankAhead, spelled, blank⟩
  · cases skipped

/-- Whatever is skipped as a value with this fuel is one. -/
def SkipsValues (fuel : Nat) : Prop :=
  ∀ ⦃bytes rest : List UInt8⦄, skipValueWith fuel bytes = .ok rest →
    ∃ value, Stands Writes value bytes rest

/-- Whatever is skipped as the elements of an array are elements. -/
def SkipsElements (fuel : Nat) : Prop :=
  ∀ ⦃isFirst : Bool⦄ ⦃bytes rest : List UInt8⦄, skipElements fuel isFirst bytes = .ok rest →
    ∃ elements, StandsAll Writes isFirst elements bytes (closeArray :: rest)

/-- Whatever is skipped as the members of an object are members. -/
def SkipsMembers (fuel : Nat) : Prop :=
  ∀ ⦃isFirst : Bool⦄ ⦃bytes rest : List UInt8⦄, skipMembers fuel isFirst bytes = .ok rest →
    ∃ members, StandsAll WritesMember isFirst members bytes (closeObject :: rest)

theorem skipsValues_succ (elements : SkipsElements fuel) (members : SkipsMembers fuel) :
    SkipsValues (fuel + 1) := by
  intro bytes rest skipped
  rw [skipValueWith] at skipped
  split at skipped
  · cases skipped
  · rename_i left
    obtain ⟨blanks, blank, rfl⟩ := exists_blanks left
    obtain ⟨inside, stands⟩ := elements skipped
    exact ⟨_, stands.array.behind blank⟩
  · rename_i left
    obtain ⟨blanks, blank, rfl⟩ := exists_blanks left
    obtain ⟨inside, stands⟩ := members skipped
    exact ⟨_, stands.object.behind blank⟩
  · rename_i left
    obtain ⟨blanks, blank, rfl⟩ := exists_blanks left
    obtain ⟨value, stands⟩ := exists_scalar skipped
    exact ⟨value, stands.behind blank⟩

theorem skipElements_cases {isFirst : Bool}
    (skipped : skipElements (fuel + 1) isFirst bytes = .ok rest) :
    (∃ blanks, Blank blanks ∧ bytes = blanks ++ closeArray :: rest) ∨
      ∃ gap behind, Gap isFirst gap ∧ bytes = gap ++ behind ∧
        (skipValueWith fuel behind >>= skipElements fuel false) = .ok rest := by
  rw [skipElements] at skipped
  split at skipped
  · cases skipped
  · rename_i left
    obtain rfl := Except.ok.inj skipped
    exact .inl (exists_blanks left)
  rename_i byte behind _ left
  obtain ⟨blanks, blank, rfl⟩ := exists_blanks left
  cases isFirst with
  | true => exact .inr ⟨blanks, _, .first blank, rfl, skipped⟩
  | false =>
    rw [if_neg Bool.false_ne_true] at skipped
    split at skipped
    · rename_i isComma
      obtain rfl := beq_iff_eq.mp isComma
      exact .inr ⟨_, behind, .next blank blank_nil, List.append_cons .., skipped⟩
    · cases skipped

theorem skipMembers_cases {isFirst : Bool}
    (skipped : skipMembers (fuel + 1) isFirst bytes = .ok rest) :
    (∃ blanks, Blank blanks ∧ bytes = blanks ++ closeObject :: rest) ∨
      ∃ gap behind, Gap isFirst gap ∧ bytes = gap ++ behind ∧
        (skipKey behind >>= fun behind => skipValueWith fuel behind >>=
          skipMembers fuel false) = .ok rest := by
  rw [skipMembers] at skipped
  split at skipped
  · cases skipped
  · rename_i left
    obtain rfl := Except.ok.inj skipped
    exact .inl (exists_blanks left)
  rename_i byte behind _ left
  obtain ⟨blanks, blank, rfl⟩ := exists_blanks left
  cases isFirst with
  | true => exact .inr ⟨blanks, _, .first blank, rfl, skipped⟩
  | false =>
    rw [if_neg Bool.false_ne_true] at skipped
    split at skipped
    · rename_i isComma
      obtain rfl := beq_iff_eq.mp isComma
      exact .inr ⟨_, behind, .next blank blank_nil, List.append_cons .., skipped⟩
    · cases skipped

theorem skipsElements_succ (values : SkipsValues fuel) (elements : SkipsElements fuel) :
    SkipsElements (fuel + 1) := by
  intro isFirst bytes rest skipped
  rcases skipElements_cases skipped with ⟨blanks, blank, rfl⟩ | ⟨gap, behind, apart, rfl, goesOn⟩
  · exact ⟨[], standsAll_nil blank⟩
  · rw [bind_eq_ok_iff] at goesOn
    obtain ⟨left, here, later⟩ := goesOn
    obtain ⟨value, stands⟩ := values here
    obtain ⟨others, standsLater⟩ := elements later
    exact ⟨value :: others, stands.all apart standsLater⟩

theorem skipsMembers_succ (values : SkipsValues fuel) (members : SkipsMembers fuel) :
    SkipsMembers (fuel + 1) := by
  intro isFirst bytes rest skipped
  rcases skipMembers_cases skipped with ⟨blanks, blank, rfl⟩ | ⟨gap, behind, apart, rfl, goesOn⟩
  · exact ⟨[], standsAll_nil blank⟩
  · rw [bind_eq_ok_iff] at goesOn
    obtain ⟨left, name, goesOn⟩ := goesOn
    rw [bind_eq_ok_iff] at goesOn
    obtain ⟨left, here, later⟩ := goesOn
    obtain ⟨ahead, key, blanks, left, rfl, blankAhead, spelled, blank⟩ := exists_key name
    obtain ⟨value, stands⟩ := values here
    obtain ⟨others, standsLater⟩ := members later
    have member := (spelled.stands_member blank stands).behind blankAhead
    exact ⟨(key, value) :: others, member.all apart standsLater⟩

theorem skips (fuel : Nat) : SkipsValues fuel ∧ SkipsElements fuel ∧ SkipsMembers fuel := by
  induction fuel with
  | zero =>
    refine ⟨?_, ?_, ?_⟩
    · intro bytes rest skipped
      cases skipped
    · intro isFirst bytes rest skipped
      cases skipped
    · intro isFirst bytes rest skipped
      cases skipped
  | succ fuel ih =>
    obtain ⟨values, elements, members⟩ := ih
    exact ⟨skipsValues_succ elements members, skipsElements_succ values elements,
      skipsMembers_succ values members⟩

/-- What was skipped as a value is a written value. -/
theorem exists_stands_of_skipValue (skipped : skipValue bytes = .ok rest) :
    ∃ value, Stands Writes value bytes rest :=
  (skips _).1 skipped

end Skipping
end ReleaseFeed.Json
