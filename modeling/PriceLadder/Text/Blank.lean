set_option autoImplicit false

namespace PriceLadder.Text

/-- Whether a character has the Unicode property `White_Space`. -/
def isBlank (c : Char) : Bool :=
  c = ' ' || ('\t' ≤ c && c ≤ '\r') || c = '\u0085' || c = '\u00a0' || c = '\u1680' ||
    ('\u2000' ≤ c && c ≤ '\u200a') || c = '\u2028' || c = '\u2029' || c = '\u202f' ||
    c = '\u205f' || c = '\u3000'

def trim (text : List Char) : List Char :=
  ((text.dropWhile isBlank).reverse.dropWhile isBlank).reverse

theorem trim_eq_self {text : List Char} (head : ∀ c ∈ text.head?, isBlank c = false)
    (last : ∀ c ∈ text.getLast?, isBlank c = false) : trim text = text := by
  have drop {l : List Char} (h : ∀ c ∈ l.head?, isBlank c = false) :
      l.dropWhile isBlank = l := by
    cases l with
    | nil => rfl
    | cons c r => simp [h c (by simp)]
  rw [trim, drop head, drop (by simpa using last), List.reverse_reverse]

/-- Whether `core` is what is left of a text without the white space around it. -/
structure TrimsTo (text core : List Char) : Prop where
  around : ∃ before after, text = before ++ core ++ after ∧ (∀ c ∈ before, isBlank c) ∧
    ∀ c ∈ after, isBlank c
  head : ∀ c ∈ core.head?, isBlank c = false
  last : ∀ c ∈ core.getLast?, isBlank c = false

theorem trimsTo_trim (text : List Char) : TrimsTo text (trim text) := by
  have unblank {l : List Char} : ∀ c ∈ (l.dropWhile isBlank).head?, isBlank c = false := by
    intro c first
    have stops := List.head?_dropWhile_not isBlank l
    rwa [first] at stops
  have split (l : List Char) : ∃ dropped, l = dropped ++ l.dropWhile isBlank ∧
      ∀ c ∈ dropped, isBlank c :=
    ⟨_, List.takeWhile_append_dropWhile.symm, List.all_eq_true.1 List.all_takeWhile⟩
  obtain ⟨before, front, beforeBlank⟩ := split text
  obtain ⟨after, back, afterBlank⟩ := split (text.dropWhile isBlank).reverse
  have kept : text.dropWhile isBlank = trim text ++ after.reverse := by
    rw [trim, ← List.reverse_append, ← back, List.reverse_reverse]
  refine ⟨⟨before, after.reverse, ?_, beforeBlank, ?_⟩, fun c first => ?_, fun c last => ?_⟩
  · rw [List.append_assoc, ← kept]
    exact front
  · intro c member
    exact afterBlank c (List.mem_reverse.1 member)
  · -- What is left of a text that starts without white space starts with the same character.
    refine unblank (l := text) c ?_
    rw [kept, List.head?_append, Option.mem_def.1 first]
    rfl
  · rw [trim, List.getLast?_reverse] at last
    exact unblank c last

theorem TrimsTo.trim_eq {text core : List Char} (trims : TrimsTo text core) : trim text = core := by
  obtain ⟨⟨before, after, rfl, beforeBlank, afterBlank⟩, head, last⟩ := trims
  have own := trim_eq_self head last
  rw [List.append_assoc, trim, List.dropWhile_append_of_pos beforeBlank]
  cases core with
  | nil =>
    have nothing : (after ++ []).dropWhile isBlank = [] := List.dropWhile_append_of_pos afterBlank
    rw [List.nil_append, ← List.append_nil after, nothing]
    rfl
  | cons c rest =>
    have solid : ¬ isBlank c := by simp [head c rfl]
    rw [List.cons_append, List.dropWhile_cons_of_neg solid, ← List.cons_append,
      List.reverse_append, List.dropWhile_append_of_pos (by simpa using afterBlank)]
    rwa [trim, List.dropWhile_cons_of_neg solid] at own

/-- White space inside a text stays. -/
theorem trim_eq_iff {text core : List Char} : trim text = core ↔ TrimsTo text core := by
  constructor
  · rintro rfl
    exact trimsTo_trim text
  · exact TrimsTo.trim_eq

theorem trim_trim (text : List Char) : trim (trim text) = trim text :=
  trim_eq_self (trimsTo_trim text).head (trimsTo_trim text).last

theorem length_trim_le (text : List Char) : (trim text).length ≤ text.length := by
  obtain ⟨before, after, whole, -⟩ := (trimsTo_trim text).around
  have lengths := congrArg List.length whole
  rw [List.length_append, List.length_append] at lengths
  omega

end PriceLadder.Text
