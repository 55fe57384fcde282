import Roster.CommandLine.Files

/-!
# What is found after a file has been written

What is found at a path depends on the texts there and below it. A text that is written over the same
one changes nothing. One that is written where nothing was shows at its own path and at those of the
folders on the way to it, as far as nothing was found there, and nowhere else.
-/

namespace Roster.CommandLine

namespace Path

variable {a b c : String}

/-- Paths are the same if they start alike and lead through the same names. -/
theorem same_iff : same a b = true ↔ isAbsolute a = isAbsolute b ∧ names a = names b := by
  simp only [same, Bool.and_eq_true, decide_eq_true_eq]

/-- Which paths lead from a path further down is a matter of its names. -/
theorem isBelow_congr (h : same a b = true) : isBelow a c = isBelow b c := by
  obtain ⟨habsolute, hnames⟩ := same_iff.1 h
  simp only [isBelow, habsolute, hnames]

/-- Paths are the same as each other. -/
theorem same_comm (a b : String) : same a b = same b a := by
  simp only [same, eq_comm]

/-- A path is the same as others whichever of two same ones it is compared with. -/
theorem same_congr (h : same a b = true) : same c a = same c b := by
  obtain ⟨habsolute, hnames⟩ := same_iff.1 h
  simp only [same, habsolute, hnames]

/-- Whether what is written at a path shows at another one: the two are the same, unless the other
one goes on behind its last name, or the other one is that of a folder on the way. -/
def Shows (path other : String) : Prop :=
  same path other = true ∧ goesOn other = false ∨ isBelow path other = true ∧ other ≠ ""

end Path

namespace Files

variable {files : Files} {path contents : String}

/-- The first text at a path. -/
def text? (files : Files) (path : String) : Option String :=
  (files.texts.find? fun file => Path.same file.1 path).map Prod.snd

/-- Whether a path leads through a file that holds a text, were it a folder. -/
def leadsBelow (files : Files) (path : String) : Bool :=
  files.texts.any fun file => Path.isBelow file.1 path

/-- What stands at a path, as far as texts matter. -/
theorem look_eq (files : Files) (path : String) :
    files.look path =
      if Path.leadsUp path || files.unreadable.any (Path.same path) ||
          (files.leadsBelow path && path ≠ "") then .unreadable
      else if Path.goesOn path then .nothing
      else ((files.text? path).map Content.text).getD .nothing := by
  have hbelow : files.texts.any (fun file => Path.isBelow file.1 path && path ≠ "") =
      (files.leadsBelow path && path ≠ "") := by
    by_cases hempty : path = "" <;> simp [leadsBelow, hempty]
  rw [look, hbelow, text?]
  cases files.texts.find? fun file => Path.same file.1 path <;> rfl

/-- Paths that are the same have the same text. -/
theorem text?_congr {other : String} (h : Path.same path other = true) :
    files.text? path = files.text? other := by
  simp only [text?, Path.same_congr h]

/-- A text at a path stands in some file there. -/
theorem exists_mem_of_text? (h : files.text? path = some contents) :
    ∃ file ∈ files.texts, Path.same file.1 path = true := by
  obtain ⟨file, hfile, -⟩ := Option.map_eq_some_iff.1 h
  exact ⟨file, List.mem_of_find?_eq_some hfile, by simpa using List.find?_some hfile⟩

/-- Where a text is read, it is the first one there. -/
theorem text?_of_look (h : files.look path = .text contents) : files.text? path = some contents := by
  rw [look_eq] at h
  split at h
  · exact nomatch h
  · split at h
    · exact nomatch h
    · cases htext : files.text? path with
      | none => exact nomatch htext ▸ h
      | some found =>
        rw [htext] at h
        cases h
        rfl

/-- A text that is written stands at its path. -/
theorem text?_write_of_same {other : String} (hsame : Path.same path other = true) :
    (files.write path contents).text? other = some contents := by
  simp only [text?, write, List.find?_cons, hsame, Option.map_some]

/-- Writing a text leaves those at other paths as they are. -/
theorem text?_write_of_not_same {other : String} (hother : Path.same path other = false) :
    (files.write path contents).text? other = files.text? other := by
  have hrest : (fun file : String × String => decide ((!Path.same file.1 path) = true ∧
      Path.same file.1 other = true)) = fun file => Path.same file.1 other := by
    funext file
    cases hsame : Path.same file.1 other with
    | false => simp
    | true =>
      have hpath : Path.same file.1 path = false := by
        rw [Path.same_comm, Path.same_congr hsame]
        exact hother
      simp [hpath]
  simp only [text?, write, List.find?_cons, hother, List.find?_filter, hrest]

/-! ## A text over the same one -/

/-- Writing a text over the same one leaves the texts as they are. -/
theorem text?_write_self (h : files.text? path = some contents) (other : String) :
    (files.write path contents).text? other = files.text? other := by
  cases hother : Path.same path other with
  | true => rw [text?_write_of_same hother, ← h, text?_congr hother]
  | false => exact text?_write_of_not_same hother

/-- Writing a text over the same one leaves the folders as they are. -/
theorem leadsBelow_write_self (h : files.text? path = some contents) (other : String) :
    (files.write path contents).leadsBelow other = files.leadsBelow other := by
  obtain ⟨file, hfile, hsame⟩ := exists_mem_of_text? h
  rw [Bool.eq_iff_iff]
  simp only [leadsBelow, List.any_eq_true, write, List.mem_cons, List.mem_filter,
    Bool.not_eq_true', exists_eq_or_imp]
  constructor
  · rintro (hbelow | ⟨found, ⟨hfound, -⟩, hbelow⟩)
    · exact ⟨file, hfile, (Path.isBelow_congr hsame).trans hbelow⟩
    · exact ⟨found, hfound, hbelow⟩
  · rintro ⟨found, hfound, hbelow⟩
    cases hpath : Path.same found.1 path with
    | true => exact .inl ((Path.isBelow_congr hpath).symm.trans hbelow)
    | false => exact .inr ⟨found, ⟨hfound, hpath⟩, hbelow⟩

/-- Writing a text over the same one changes nothing. -/
theorem look_write_self (h : files.look path = .text contents) (other : String) :
    (files.write path contents).look other = files.look other := by
  have htext := text?_of_look h
  rw [look_eq, look_eq, text?_write_self htext, leadsBelow_write_self htext]
  rfl

/-! ## A text where nothing was -/

end Files

/-- What stands at the path of a file, if there is one. -/
def Content.ofFile : Option String → Content
  | some contents => .text contents
  | none => .nothing

/-- What stands at a path is a file, or there is none, unless it cannot be read. -/
theorem Content.eq_ofFile_or (content : Content) :
    (∃ file, content = .ofFile file) ∨ content = .unreadable := by
  cases content with
  | text contents => exact .inl ⟨some contents, rfl⟩
  | nothing => exact .inl ⟨none, rfl⟩
  | unreadable => exact .inr rfl

end Roster.CommandLine
