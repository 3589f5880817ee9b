import Mathlib.Data.List.TakeWhile
import StarWatch.Text.Blank

/-!
# What is left without the blanks

A text is cut from both ends up to the first character that is not blank. What
is left is known by that: there are blanks around it, and none at its ends. So a
text without blanks comes through blanks around it, and of a blank text nothing
is left.
-/

namespace StarWatch.Text

/-- A text is what is left when the blanks at both ends are taken away. -/
structure Trims (cs text : List Char) : Prop where
  between : ∃ before after, cs = before ++ text ++ after ∧
    (∀ c ∈ before, isBlank c = true) ∧ ∀ c ∈ after, isBlank c = true
  head : ∀ c ∈ text.head?, isBlank c = false
  last : ∀ c ∈ text.getLast?, isBlank c = false

section Fronts

variable {c : Char} {cs blanks rest : List Char}

theorem trimLeft_cons (visible : isBlank c = false) : trimLeft (c :: rest) = c :: rest := by
  rw [trimLeft, List.dropWhile_cons_of_neg]
  simp [visible]

theorem trimLeft_eq_self (head : ∀ c ∈ cs.head?, isBlank c = false) : trimLeft cs = cs := by
  cases cs with
  | nil => rfl
  | cons c rest => exact trimLeft_cons (head c rfl)

theorem trimLeft_append (blank : ∀ c ∈ blanks, isBlank c = true) (rest : List Char) :
    trimLeft (blanks ++ rest) = trimLeft rest :=
  List.dropWhile_append_of_pos blank

theorem head?_trimLeft (cs : List Char) : ∀ c ∈ (trimLeft cs).head?, isBlank c = false := by
  intro c first
  have stopped := List.head?_dropWhile_not isBlank cs
  rw [trimLeft, Option.mem_def] at first
  rw [first] at stopped
  exact stopped

theorem exists_trimLeft (cs : List Char) :
    ∃ blanks, cs = blanks ++ trimLeft cs ∧ ∀ c ∈ blanks, isBlank c = true := by
  refine ⟨cs.takeWhile isBlank, List.takeWhile_append_dropWhile.symm, ?_⟩
  intro c member
  exact List.mem_takeWhile_imp member

end Fronts

section Trimming

variable {cs text : List Char} {s : String}

theorem trimRight_eq (cs : List Char) : trimRight cs = (trimLeft cs.reverse).reverse := rfl

theorem trims_trim (cs : List Char) : Trims cs (trim cs) := by
  obtain ⟨before, front, blank⟩ := exists_trimLeft cs
  obtain ⟨after, back, blank'⟩ := exists_trimLeft (trimLeft cs).reverse
  have whole : trimLeft cs = trim cs ++ after.reverse := by
    rw [trim, trimRight_eq, ← List.reverse_append, ← back, List.reverse_reverse]
  constructor
  · refine ⟨before, after.reverse, ?_, blank, ?_⟩
    · rw [List.append_assoc, ← whole]
      exact front
    · intro c member
      exact blank' c (List.mem_reverse.mp member)
  · intro c first
    apply head?_trimLeft cs
    rw [whole, List.head?_append, Option.mem_def.mp first]
    rfl
  · intro c last
    rw [trim, trimRight_eq, List.getLast?_reverse] at last
    exact head?_trimLeft _ c last

/-- There is one way to take the blanks away. -/
theorem trims_iff : Trims cs text ↔ text = trim cs := by
  constructor
  · rintro ⟨⟨before, after, rfl, blank, blank'⟩, head, last⟩
    have reversed : ∀ c ∈ after.reverse, isBlank c = true := by
      intro c member
      exact blank' c (List.mem_reverse.mp member)
    have backward : trimRight (text ++ after) = text := by
      rw [trimRight_eq, List.reverse_append, trimLeft_append reversed, trimLeft_eq_self,
        List.reverse_reverse]
      intro c first
      rw [List.head?_reverse] at first
      exact last c first
    rw [trim, List.append_assoc, trimLeft_append blank]
    cases text with
    | nil =>
      have none_left := trimLeft_append blank' []
      rw [List.append_nil] at none_left
      rw [List.nil_append, none_left]
      rfl
    | cons c rest =>
      rw [trimLeft_eq_self, backward]
      intro d first
      exact head d first
  · rintro rfl
    exact trims_trim cs

/-- A text without blank characters is what is left of it with blanks around it. -/
theorem trims_of_visible {before after : List Char} (blank : ∀ c ∈ before, isBlank c = true)
    (blank' : ∀ c ∈ after, isBlank c = true) (visible : ∀ c ∈ text, isBlank c = false) :
    Trims (before ++ text ++ after) text where
  between := ⟨before, after, rfl, blank, blank'⟩
  head c first := visible c (List.mem_of_mem_head? first)
  last c final := visible c (List.mem_of_getLast? final)

theorem allBlank_iff : allBlank s = true ↔ ∀ c ∈ s.toList, isBlank c = true := by
  rw [allBlank, List.isEmpty_iff, eq_comm, ← trims_iff]
  constructor
  · rintro ⟨⟨before, after, split, blank, blank'⟩, -, -⟩
    intro c member
    rw [split, List.append_nil, List.mem_append] at member
    rcases member with front | back
    · exact blank c front
    · exact blank' c back
  · intro blank
    exact ⟨⟨s.toList, [], by simp, blank, by simp⟩, by simp, by simp⟩

theorem allBlank_eq_false_iff : allBlank s = false ↔ ∃ c ∈ s.toList, isBlank c = false := by
  rw [← Bool.not_eq_true, allBlank_iff]
  simp

end Trimming

end StarWatch.Text
