/-!
# Blank characters

What counts as blank is the Unicode property White_Space. A required name must hold something
that is not blank; numbers in settings and parts of an instant may be surrounded by blanks.

* `isBlank` -- the property;
* `trim` -- a text without the blanks at its two ends (`exists_trim`: only blanks are taken away;
  `trim_around`: all that stand around a text without blanks);
* `allBlank` -- whether nothing is left then (`allBlank_iff`: every character is blank).
-/

namespace Catalogue

/-- Membership in the Unicode property White_Space. -/
def isBlank (c : Char) : Bool :=
  let n := c.toNat
  (9 ≤ n && n ≤ 13) || n == 32 || n == 0x85 || n == 0xA0 || n == 0x1680 ||
    (0x2000 ≤ n && n ≤ 0x200A) || n == 0x2028 || n == 0x2029 || n == 0x202F || n == 0x205F ||
    n == 0x3000

/-- The text without its leading blanks. -/
def trimStart (cs : List Char) : List Char := cs.dropWhile isBlank

/-- The text without its trailing blanks. -/
def trimEnd (cs : List Char) : List Char := (cs.reverse.dropWhile isBlank).reverse

/-- The text without the blanks at its two ends. -/
def trim (cs : List Char) : List Char := trimEnd (trimStart cs)

/-- Whether nothing is left of a text when it is trimmed. -/
def allBlank (s : String) : Bool := (trim s.toList).isEmpty

theorem dropWhile_eq_nil_iff_all {α : Type} (p : α → Bool) (l : List α) :
    l.dropWhile p = [] ↔ ∀ a ∈ l, p a := by
  induction l with
  | nil => simp
  | cons a l ih => by_cases h : p a <;> simp [h, ih]

/-- Only blanks are trimmed away completely. -/
theorem trim_eq_nil_iff (cs : List Char) : trim cs = [] ↔ ∀ c ∈ cs, isBlank c := by
  unfold trim trimEnd
  rw [List.reverse_eq_nil_iff, dropWhile_eq_nil_iff_all]
  constructor
  · intro h c hc
    unfold trimStart at h
    by_cases hb : isBlank c
    · exact hb
    · refine h c (List.mem_reverse.2 ?_)
      have hsplit := List.takeWhile_append_dropWhile (p := isBlank) (l := cs)
      rw [← hsplit] at hc
      rcases List.mem_append.1 hc with hc | hc
      · have hall : (cs.takeWhile isBlank).all isBlank := List.all_takeWhile
        exact absurd (List.all_eq_true.1 hall c hc) hb
      · exact hc
  · intro h c hc
    exact h c ((List.dropWhile_sublist isBlank).subset (List.mem_reverse.1 hc))

/-- **A text of which nothing is left holds no character but blanks.** -/
theorem allBlank_iff (s : String) : allBlank s = true ↔ ∀ c ∈ s.toList, isBlank c := by
  rw [allBlank, List.isEmpty_iff, trim_eq_nil_iff]

/-- What is trimmed away is blank. -/
theorem exists_trim (cs : List Char) :
    ∃ lead trail, (∀ c ∈ lead, isBlank c) ∧ (∀ c ∈ trail, isBlank c) ∧
      cs = lead ++ (trim cs ++ trail) := by
  have htake (l : List Char) : ∀ c ∈ l.takeWhile isBlank, isBlank c :=
    List.all_eq_true.1 List.all_takeWhile
  refine ⟨cs.takeWhile isBlank, ((trimStart cs).reverse.takeWhile isBlank).reverse, htake cs,
    fun c hc => htake _ c (List.mem_reverse.1 hc), ?_⟩
  rw [trim, trimEnd, ← List.reverse_append, List.takeWhile_append_dropWhile, List.reverse_reverse,
    trimStart, List.takeWhile_append_dropWhile]

/-- Dropping stops at the first element that does not satisfy the test. -/
theorem dropWhile_around {α : Type} {p : α → Bool} {lead core : List α} (rest : List α)
    (hlead : ∀ a ∈ lead, p a) (hcore : ∀ a ∈ core, ¬p a) (hne : core ≠ []) :
    (lead ++ (core ++ rest)).dropWhile p = core ++ rest := by
  rw [List.dropWhile_append_of_pos hlead]
  cases core with
  | nil => exact absurd rfl hne
  | cons a core => rw [List.cons_append, List.dropWhile_cons_of_neg (hcore a List.mem_cons_self)]

/-- Blanks around a text that holds none are trimmed away. -/
theorem trim_around {lead core trail : List Char} (hlead : ∀ c ∈ lead, isBlank c)
    (htrail : ∀ c ∈ trail, isBlank c) (hcore : ∀ c ∈ core, ¬isBlank c) (hne : core ≠ []) :
    trim (lead ++ (core ++ trail)) = core := by
  have hend : (trail.reverse ++ (core.reverse ++ [])).dropWhile isBlank = core.reverse ++ [] :=
    dropWhile_around [] (fun c hc => htrail c (List.mem_reverse.1 hc))
      (fun c hc => hcore c (List.mem_reverse.1 hc)) (mt List.reverse_eq_nil_iff.1 hne)
  rw [List.append_nil] at hend
  rw [trim, trimStart, dropWhile_around trail hlead hcore hne, trimEnd, List.reverse_append, hend,
    List.reverse_reverse]

end Catalogue
