import Mathlib.Data.List.DropRight
import SandboxPolicy.Evaluator
import SandboxPolicy.Proofs.Splitting
import SandboxPolicy.Proofs.Trimming

/-!
Absolute paths as lists of components. A path lies at or below another just when its components
start with those of the other, so no path is taken for one below a neighbour with a shorter name.
-/

namespace SandboxPolicy

/-- What stands between the slashes of an absolute path, behind the first of them. -/
def components (path : List Char) : List (List Char) := (path.drop 1).splitOn '/'

/-- The components without the empty ones that slashes at the end of the path leave. -/
def stemComponents (path : List Char) : List (List Char) :=
  (components path).rdropWhile List.isEmpty

theorem prefix_rdropWhile {unwanted : List Char → Bool} {front parts : List (List Char)}
    (start : front.rdropWhile unwanted <+: parts) :
    front.rdropWhile unwanted <+: parts.rdropWhile unwanted := by
  have whole : parts.rdropWhile unwanted ++ parts.rtakeWhile unwanted = parts :=
    List.rdropWhile_append_rtakeWhile
  rw [← whole] at start
  obtain ⟨rest, split⟩ := start
  rcases List.append_eq_append_iff.mp split with ⟨middle, longer, _⟩ | ⟨middle, longer, cut⟩
  · exact ⟨middle, longer.symm⟩
  · rcases List.eq_nil_or_concat middle with rfl | ⟨middle, last, rfl⟩
    · exact ⟨[], by rw [List.append_nil, longer, List.append_nil]⟩
    · have dropped : unwanted last = true := List.mem_rtakeWhile_imp (by rw [cut]; simp)
      have kept := List.rdropWhile_last_not unwanted front (by rw [longer]; simp)
      simp [longer, dropped] at kept

/-! The test for a path below another, in terms of components. -/

theorem subpathMatches_iff {base path : List Char} : subpathMatches base path = true ↔
    (path = trimEnd (· == '/') base ∧ path ≠ []) ∨
      ∃ rest, path = trimEnd (· == '/') base ++ '/' :: rest := by
  rw [subpathMatches]
  cases below : afterStart? (trimEnd (· == '/') base) path with
  | none =>
      have apart (rest : List Char) : path ≠ trimEnd (· == '/') base ++ rest := by
        rw [ne_eq, ← afterStart?_eq_some, below]
        simp
      have other : path ≠ trimEnd (· == '/') base := by simpa using apart []
      simp [apart, other]
  | some rest =>
      rw [afterStart?_eq_some] at below
      rw [below]
      cases rest with
      | nil => simp
      | cons c rest => simp

variable {base path lower kept cut : List Char}

theorem exists_kept (rooted : base.head? = some '/') : ∃ kept cut, base = '/' :: (kept ++ cut) ∧
    (∀ c ∈ cut, c = '/') ∧ ∀ c ∈ kept.getLast?, c ≠ '/' := by
  obtain ⟨text, rfl⟩ := List.head?_eq_some_iff.mp rooted
  obtain ⟨cut, split, all, last⟩ := trimEnd_eq_iff.mp (rfl : trimEnd (· == '/') text = _)
  exact ⟨_, cut, congrArg _ split, by simpa using all, by simpa using last⟩

theorem trimEnd_rooted (all : ∀ c ∈ cut, c = '/') (last : ∀ c ∈ kept.getLast?, c ≠ '/') :
    trimEnd (· == '/') ('/' :: (kept ++ cut)) = if kept = [] then [] else '/' :: kept := by
  split
  next nothing =>
    exact trimEnd_eq_iff.mpr ⟨'/' :: cut, by rw [nothing]; rfl, by simpa using all, by simp⟩
  next something =>
    refine trimEnd_eq_iff.mpr ⟨cut, List.cons_append.symm, by simpa using all, ?_⟩
    rw [List.getLast?_cons, List.getLast?_eq_some_getLast something]
    simpa [List.getLast?_eq_some_getLast something] using last

theorem stemComponents_rooted (all : ∀ c ∈ cut, c = '/') (last : ∀ c ∈ kept.getLast?, c ≠ '/') :
    stemComponents ('/' :: (kept ++ cut)) = if kept = [] then [] else kept.splitOn '/' := by
  rw [stemComponents, components, List.drop_one, List.tail_cons,
    rdropWhile_splitOn_append all last]

theorem subpathMatches_iff_components (rooted : base.head? = some '/')
    (rooted' : path.head? = some '/') :
    subpathMatches base path = true ↔ stemComponents base <+: components path := by
  obtain ⟨kept, cut, rfl, all, last⟩ := exists_kept rooted
  obtain ⟨text, rfl⟩ := List.head?_eq_some_iff.mp rooted'
  rw [subpathMatches_iff, trimEnd_rooted all last, stemComponents_rooted all last]
  split
  next => simp
  next =>
    rw [components, List.drop_one, List.tail_cons, splitOn_prefix_iff]
    simp

theorem subpathMatches_refl (rooted : path.head? = some '/') : subpathMatches path path = true :=
  (subpathMatches_iff_components rooted rooted).mpr (List.rdropWhile_prefix _ _)

theorem subpathMatches_trans (rooted : base.head? = some '/') (rooted' : path.head? = some '/')
    (rooted'' : lower.head? = some '/') (upper : subpathMatches base path = true)
    (below : subpathMatches path lower = true) : subpathMatches base lower = true := by
  rw [subpathMatches_iff_components rooted rooted'] at upper
  rw [subpathMatches_iff_components rooted' rooted''] at below
  rw [subpathMatches_iff_components rooted rooted'']
  exact (prefix_rdropWhile upper).trans below

theorem subpathMatches_append_slashes (all : ∀ c ∈ cut, c = '/') :
    subpathMatches (base ++ cut) path = subpathMatches base path := by
  rw [subpathMatches, subpathMatches, trimEnd_append (by simpa using all)]

theorem subpathMatches_slashes (all : ∀ c ∈ base, c = '/') (rooted : path.head? = some '/') :
    subpathMatches base path = true := by
  obtain ⟨text, rfl⟩ := List.head?_eq_some_iff.mp rooted
  have nothing : trimEnd (· == '/') base = [] :=
    trimEnd_eq_iff.mpr ⟨base, rfl, by simpa using all, by simp⟩
  rw [subpathMatches_iff, nothing]
  exact .inr ⟨text, rfl⟩

theorem subpathMatches_sibling (rooted : base.head? = some '/') (rooted' : path.head? = some '/')
    {front behind : List (List Char)} {last extension : List Char}
    (upper : stemComponents base = front ++ [last])
    (sibling : components path = front ++ (last ++ extension) :: behind)
    (longer : extension ≠ []) : subpathMatches base path = false := by
  rw [Bool.eq_false_iff, ne_eq, subpathMatches_iff_components rooted rooted', upper, sibling,
    List.prefix_append_right_inj, List.cons_prefix_cons]
  rintro ⟨same, _⟩
  exact longer (List.self_eq_append_right.mp same)

/-- A path lies at or below another just when its components start with those of the other, slashes
at whose end do not count. This is an order up to such slashes, with the root on top, and a longer
name is another name. -/
theorem subpathMatches_componentwise (rooted : base.head? = some '/')
    (rooted' : path.head? = some '/') :
    (subpathMatches base path = true ↔ stemComponents base <+: components path) ∧
    subpathMatches path path = true ∧
    (∀ lower : List Char, lower.head? = some '/' → subpathMatches base path = true →
      subpathMatches path lower = true → subpathMatches base lower = true) ∧
    (∀ count, subpathMatches (base ++ List.replicate count '/') path =
      subpathMatches base path) ∧
    ((∀ c ∈ base, c = '/') → subpathMatches base path = true) ∧
    ∀ front last extension behind, stemComponents base = front ++ [last] →
      components path = front ++ (last ++ extension) :: behind → extension ≠ [] →
      subpathMatches base path = false := by
  refine ⟨subpathMatches_iff_components rooted rooted', subpathMatches_refl rooted', ?_, ?_, ?_, ?_⟩
  · intro lower rooted'' upper below
    exact subpathMatches_trans rooted rooted' rooted'' upper below
  · intro count
    exact subpathMatches_append_slashes fun c member => List.eq_of_mem_replicate member
  · intro all
    exact subpathMatches_slashes all rooted'
  · intro front last extension behind upper sibling longer
    exact subpathMatches_sibling rooted rooted' upper sibling longer

/-- Slashes in the middle are components of their own, and what merely begins alike is no path
below. -/
theorem subpathMatches_componentwise_slashes :
    subpathMatches "/usr//lib//".toList "/usr//lib/a".toList = true ∧
    subpathMatches "/usr//lib//".toList "/usr/lib/a".toList = false ∧
    subpathMatches "/usr".toList "/usrlocal/a".toList = false := by
  refine ⟨?_, ?_, ?_⟩
  · rw [(subpathMatches_componentwise rfl rfl).1]
    decide
  · rw [Bool.eq_false_iff, ne_eq, (subpathMatches_componentwise rfl rfl).1]
    decide
  · exact (subpathMatches_componentwise rfl rfl).2.2.2.2.2 [] "usr".toList "local".toList
      ["a".toList] (by decide) (by decide) (by decide)

end SandboxPolicy
