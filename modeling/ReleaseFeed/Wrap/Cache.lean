import ReleaseFeed.Channel.Basic
import ReleaseFeed.Wrap.Basic
/-!
A store of wrapped texts. It holds texts of one width only: a request at another width drops
everything that was wrapped before.
-/
namespace ReleaseFeed

/-- Wrapped texts at the width of the last request; nothing before the first request. -/
structure WrapCache where
  stored : Option (Nat × List (List Char × List Char))

namespace WrapCache

def empty : WrapCache := ⟨none⟩

def width? (cache : WrapCache) : Option Nat := cache.stored.map (·.1)

def size (cache : WrapCache) : Nat := (cache.stored.map (·.2.length)).getD 0

/-- The stored texts with their wrapped forms, if they have the given width. -/
def bodiesAt (cache : WrapCache) (width : Nat) : List (List Char × List Char) :=
  match cache.stored with
  | some (stored, bodies) => if stored = width then bodies else []
  | none => []

/-- The stored form of a text at a width. -/
def find? (cache : WrapCache) (text : List Char) (width : Nat) : Option (List Char) :=
  (cache.bodiesAt width).lookup text

/-- A wrapped text, and whether it was stored already. -/
structure Answer where
  text : List Char
  hit : Bool

def wrap (cache : WrapCache) (text : List Char) (width : Nat) : Answer × WrapCache :=
  let bodies := cache.bodiesAt width
  match bodies.lookup text with
  | some wrapped => (⟨wrapped, true⟩, ⟨some (width, bodies)⟩)
  | none =>
    let wrapped := Wrap.wrapText text width
    (⟨wrapped, false⟩, ⟨some (width, (text, wrapped) :: bodies)⟩)

def wrapped (cache : WrapCache) (item : ChangelogItem) (width : Nat) : Answer × WrapCache :=
  cache.wrap item.body.toList width

inductive Call where
  | wrap (text : List Char) (width : Nat)
  | wrapped (item : ChangelogItem) (width : Nat)
  | clear

/-- Answers a call; clearing forgets everything and has no answer. -/
def step (cache : WrapCache) : Call → Option Answer × WrapCache
  | .wrap text width => (cache.wrap text width).map some id
  | .wrapped item width => (cache.wrapped item width).map some id
  | .clear => (none, empty)

def after (cache : WrapCache) (calls : List Call) : WrapCache :=
  calls.foldl (fun cache call => (cache.step call).2) cache

def answers (cache : WrapCache) : List Call → List (Option Answer)
  | [] => []
  | call :: rest => (cache.step call).1 :: (cache.step call).2.answers rest

end WrapCache
end ReleaseFeed
