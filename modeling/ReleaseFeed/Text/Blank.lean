import ReleaseFeed.Text.Split

namespace ReleaseFeed.Text

/-- The characters with the Unicode property White_Space. -/
def isBlank (c : Char) : Bool :=
  let code := c.toNat
  (9 ≤ code && code ≤ 13) || code == 0x20 || code == 0x85 || code == 0xA0 || code == 0x1680 ||
    (0x2000 ≤ code && code ≤ 0x200A) || code == 0x2028 || code == 0x2029 || code == 0x202F ||
    code == 0x205F || code == 0x3000

def trimStart (text : List Char) : List Char := text.dropWhile isBlank

def trimEnd (text : List Char) : List Char := (text.reverse.dropWhile isBlank).reverse

def trim (text : List Char) : List Char := trimEnd (trimStart text)

/-- The words of a text: its longest runs of characters that are not blank. -/
def words (text : List Char) : List (List Char) :=
  (splitBy isBlank text).filter (fun piece => !piece.isEmpty)

theorem ne_nil_of_mem_words {text word : List Char} (found : word ∈ words text) : word ≠ [] := by
  have kept := (List.mem_filter.1 found).2
  simpa using kept

theorem not_isBlank_of_mem_words {text word : List Char} (found : word ∈ words text) :
    ∀ c ∈ word, isBlank c = false :=
  not_separates_of_mem_splitBy (List.mem_filter.1 found).1

theorem mem_of_mem_words {text word : List Char} {c : Char} (found : word ∈ words text)
    (inside : c ∈ word) : c ∈ text :=
  mem_of_mem_splitBy (List.mem_filter.1 found).1 inside

theorem words_trimStart_ne_nil {text : List Char} (notBlank : trimStart text ≠ []) :
    words (trimStart text) ≠ [] := by
  obtain ⟨first, rest, shape⟩ := List.exists_cons_of_ne_nil notBlank
  have visible : isBlank first = false := by
    have head := List.head?_dropWhile_not isBlank text
    rw [show text.dropWhile isBlank = first :: rest from shape] at head
    simpa using head
  rw [shape]
  simp [words, splitBy_cons, visible]

end ReleaseFeed.Text
