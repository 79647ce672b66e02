import ReleaseFeed.Proofs.Json.Front
import ReleaseFeed.Proofs.Text.Strict

namespace ReleaseFeed.Json

open Text.Utf8 (Repairs decode? isSome_decode?_iff repairs_ascii repairs_byte repairs_encodeChar)

variable {value : Value} {bytes : List UInt8}

theorem Part.repairs (part : Part) : Repairs part.bytes part.bytes := by
  cases part with
  | plain c _ => exact repairs_encodeChar c
  | escape letter =>
    refine repairs_ascii (List.forall_mem_cons.mpr ⟨by decide, ?_⟩)
    exact List.forall_mem_singleton.mpr letter.ascii
  | unit code =>
    refine repairs_ascii (List.forall_mem_cons.mpr ⟨by decide, ?_⟩)
    exact List.forall_mem_cons.mpr ⟨by decide, code.ascii⟩

theorem Literal.repairs (literal : Literal) : Repairs literal.bytes literal.bytes := by
  induction literal with
  | nil => exact repairs_ascii (List.forall_mem_nil _)
  | cons part literal ih =>
    rw [Literal.bytes_cons]
    exact part.repairs.append ih

theorem Blank.repairs (blank : Blank bytes) : Repairs bytes bytes := repairs_ascii blank.ascii

theorem Listed.repairs {α : Type} {writes : α → List UInt8 → Prop} {isFirst : Bool}
    {members : List α} (listed : Listed writes isFirst members bytes)
    (each : ∀ member ∈ members, ∀ ⦃bytes⦄, writes member bytes → Repairs bytes bytes) :
    Repairs bytes bytes := by
  induction listed with
  | nil blank => exact blank.repairs
  | first blank written others ih =>
    obtain ⟨here, later⟩ := List.forall_mem_cons.mp each
    exact blank.repairs.append ((here written).append (ih later))
  | next blankBehind blankAhead written others ih =>
    obtain ⟨here, later⟩ := List.forall_mem_cons.mp each
    have placed := blankAhead.repairs.append ((here written).append (ih later))
    exact blankBehind.repairs.append (placed.cons (by decide))

theorem repairs_enclosed {opening closing : UInt8} (inside : Repairs bytes bytes)
    (opens : opening.toNat < 0x80) (closes : closing.toNat < 0x80) :
    Repairs (opening :: (bytes ++ [closing])) (opening :: (bytes ++ [closing])) :=
  (inside.append (repairs_byte closes)).cons opens

theorem WritesMember.repairs {member : Literal × Value} (written : WritesMember member bytes)
    (inside : ∀ ⦃bytes⦄, Writes member.2 bytes → Repairs bytes bytes) : Repairs bytes bytes := by
  cases written with
  | of key blankBehind blankAhead written =>
    have placed := blankAhead.repairs.append (inside written)
    have behind := blankBehind.repairs.append (placed.cons (by decide : colon.toNat < 0x80))
    have ahead := behind.cons (by decide : quote.toNat < 0x80)
    exact (key.repairs.append ahead).cons (by decide)

theorem repairs_word (ascii : (bytes.all fun byte => byte.toNat < 0x80) = true) :
    Repairs bytes bytes :=
  repairs_ascii (by simpa using ascii)

theorem Writes.repairs (written : Writes value bytes) : Repairs bytes bytes := by
  induction value generalizing bytes with
  | null =>
    cases written
    exact repairs_word (by decide)
  | boolean value =>
    cases written
    cases value <;> exact repairs_word (by decide)
  | number literal =>
    cases written
    exact repairs_ascii literal.ascii
  | string literal =>
    cases written
    exact repairs_enclosed literal.repairs (by decide) (by decide)
  | array elements ih =>
    cases written with
    | array inside =>
      exact repairs_enclosed
        (inside.repairs fun element listed _ written => ih element listed written)
        (by decide) (by decide)
  | object members ih =>
    cases written with
    | object inside =>
      exact repairs_enclosed
        (inside.repairs fun member listed _ written =>
          written.repairs fun _ written => ih member listed written)
        (by decide) (by decide)

theorem Document.isSome_decode? (written : Document value bytes) :
    (decode? bytes).isSome = true := by
  cases written with
  | of blankAhead written blankBehind =>
    rw [isSome_decode?_iff]
    exact (blankAhead.repairs.append (written.repairs.append blankBehind.repairs)).eq

end ReleaseFeed.Json
