import Roster.Text.Ranges

/-!
# Blank characters and trimming

A character is blank when Unicode gives it the property `White_Space`. Trimming removes the
longest blank runs from both ends of a text and leaves its inside alone.
-/

namespace Roster.Text

/-- The property `White_Space`, unchanged since Unicode 6.3. -/
def blankRanges : Ranges :=
  [(0x09, 0x0D), (0x20, 0x20), (0x85, 0x85), (0xA0, 0xA0), (0x1680, 0x1680), (0x2000, 0x200A),
   (0x2028, 0x2029), (0x202F, 0x202F), (0x205F, 0x205F), (0x3000, 0x3000)]

/-- Whether a character is blank. -/
def isBlank (c : Char) : Bool :=
  blankRanges.contains c.toNat

/-- Drop the blank characters at the end of a list. -/
def dropBlankEnd (cs : List Char) : List Char :=
  (cs.reverse.dropWhile isBlank).reverse

/-- Drop the blank characters at both ends of a list. -/
def trimChars (cs : List Char) : List Char :=
  dropBlankEnd (cs.dropWhile isBlank)

/-- The text without the blank characters at its ends. -/
def trim (s : String) : String :=
  String.ofList (trimChars s.toList)

/-- Dropping from the end keeps a front part of the list. -/
theorem dropBlankEnd_isPrefix (cs : List Char) : dropBlankEnd cs <+: cs := by
  unfold dropBlankEnd
  exact List.reverse_suffix.1 (by simpa using List.dropWhile_suffix isBlank)

/-- The last character kept is not blank. -/
theorem getLast?_dropBlankEnd (cs : List Char) :
    ∀ c ∈ (dropBlankEnd cs).getLast?, isBlank c = false := by
  intro c hc
  simp only [dropBlankEnd, List.getLast?_reverse] at hc
  have := List.head?_dropWhile_not isBlank cs.reverse
  rw [Option.mem_def.1 hc] at this
  simpa using this

/-- The first character kept is not blank. -/
theorem head?_trimChars (cs : List Char) : ∀ c ∈ (trimChars cs).head?, isBlank c = false := by
  intro c hc
  obtain ⟨tail, happend⟩ := dropBlankEnd_isPrefix (cs.dropWhile isBlank)
  have hhead : (cs.dropWhile isBlank).head? = some c := by
    rw [← happend, List.head?_append]
    simp only [trimChars] at hc
    simp [Option.mem_def.1 hc]
  have := List.head?_dropWhile_not isBlank cs
  rw [hhead] at this
  simpa using this

/-- A list whose ends are not blank is trimmed already. -/
theorem trimChars_eq_self {cs : List Char} (hhead : ∀ c ∈ cs.head?, isBlank c = false)
    (hlast : ∀ c ∈ cs.getLast?, isBlank c = false) : trimChars cs = cs := by
  have dropWhile_self : ∀ {ds : List Char}, (∀ c ∈ ds.head?, isBlank c = false) →
      ds.dropWhile isBlank = ds := by
    intro ds hds
    cases ds with
    | nil => rfl
    | cons d rest => simp [List.dropWhile, hds d (by simp)]
  rw [trimChars, dropWhile_self hhead, dropBlankEnd,
    dropWhile_self (by simpa [List.head?_reverse] using hlast), List.reverse_reverse]

/-- Trimming twice is trimming once. -/
theorem trim_trim (s : String) : trim (trim s) = trim s := by
  simp only [trim, String.toList_ofList]
  rw [trimChars_eq_self (head?_trimChars _) (getLast?_dropBlankEnd _)]

end Roster.Text
