import JsonSchema.Url.Parser
import Mathlib.Data.List.Basic

/-!
# Normal URLs

The text of a URL shows where its parts end only if no part contains the mark that ends it. A URL that is so is
normal, and it is determined by its text.

## What is here

* `Url.IsNormal` — no part contains the mark that ends it, and the path cannot be taken for an authority.
* `Url.IsNormal.eq_of_chars` — **normal URLs with the same text are the same**.
* `Url.IsNormal.notMem_chars` — the text of a normal URL has no zero character.
-/

set_option autoImplicit false

namespace JsonSchema

/-- A mark that occurs in neither front part shows where the front parts end. -/
theorem append_cons_inj {α : Type} {a : α} {x y r s : List α} (hx : a ∉ x) (hy : a ∉ y)
    (h : x ++ a :: r = y ++ a :: s) : x = y ∧ r = s := by
  induction x generalizing y with
  | nil =>
    cases y with
    | nil => exact ⟨rfl, (List.cons.inj h).2⟩
    | cons b y => exact absurd (List.cons.inj h).1 (List.ne_of_not_mem_cons hy)
  | cons b x ih =>
    cases y with
    | nil => exact absurd (List.cons.inj h).1.symm (List.ne_of_not_mem_cons hx)
    | cons c y =>
      obtain ⟨rfl, htail⟩ := List.cons.inj h
      obtain ⟨rfl, hrest⟩ := ih (List.not_mem_of_not_mem_cons hx) (List.not_mem_of_not_mem_cons hy) htail
      exact ⟨rfl, hrest⟩

namespace Url

/-- No part contains the mark that ends it, nor a zero character. Behind an authority the path is empty or starts
with a slash, and only schemes without special meaning do without one. No path starts with a lone dot, but those of
files may. -/
structure IsNormal (u : Url) : Prop where
  scheme : u.scheme.Disjoint [':', '\x00']
  authority : ∀ a ∈ u.authority, a.Disjoint ['/', '?', '#', '\x00']
  path : u.path.Disjoint ['?', '#', '\x00']
  query : ∀ q ∈ u.query, q.Disjoint ['#', '\x00']
  fragment : ∀ f ∈ u.fragment, f.Disjoint ['\x00']
  rooted : u.authority.isSome → u.path = [] ∨ u.path.head? = some '/'
  undotted : SchemeKind.of u.scheme ≠ .file → ¬ ['/', '.', '/'] <+: u.path
  plain : u.authority = none → SchemeKind.of u.scheme = .other

/-! ## The parts of the text -/

theorem marked_append_inj {mark : Char} {a b : List Char} {x y : Option (List Char)} (ha : mark ∉ a) (hb : mark ∉ b)
    (h : a ++ marked mark x = b ++ marked mark y) : a = b ∧ x = y := by
  have hnotMem {cs ds r : List Char} (hcs : mark ∉ cs) : cs ≠ ds ++ mark :: r := by
    rintro rfl
    exact hcs (by simp)
  cases x with
  | none =>
    cases y with
    | none => exact ⟨by simpa [marked] using h, rfl⟩
    | some y =>
      simp only [marked, List.append_nil] at h
      exact (hnotMem ha h).elim
  | some x =>
    cases y with
    | none =>
      simp only [marked, List.append_nil] at h
      exact (hnotMem hb h.symm).elim
    | some y =>
      obtain ⟨hab, hxy⟩ := append_cons_inj ha hb h
      exact ⟨hab, congrArg some hxy⟩

/-- Authority and path with the marks before them. -/
def hierarchy (authority : Option (List Char)) (path : List Char) : List Char :=
  (match authority with
    | some a => '/' :: '/' :: a
    | none => if ['/', '/'].isPrefixOf path then ['/', '.'] else []) ++ path

theorem chars_eq (u : Url) :
    u.chars = u.scheme ++ ':' :: (hierarchy u.authority u.path ++ marked '?' u.query ++ marked '#' u.fragment) := rfl

/-- Behind an authority the path goes on with a slash or not at all. -/
theorem rooted_append_inj {a b p q : List Char} (ha : '/' ∉ a) (hb : '/' ∉ b) (hp : p = [] ∨ p.head? = some '/')
    (hq : q = [] ∨ q.head? = some '/') (h : a ++ p = b ++ q) : a = b ∧ p = q := by
  have hmarked {r : List Char} (hr : r = [] ∨ r.head? = some '/') :
      ∃ x : Option (List Char), r = marked '/' x := by
    rcases r with _ | ⟨c, r⟩
    · exact ⟨none, rfl⟩
    · rcases hr with hnil | hhead
      · exact nomatch hnil
      · exact ⟨some r, by rw [Option.some.inj hhead]; rfl⟩
  obtain ⟨x, rfl⟩ := hmarked hp
  obtain ⟨y, rfl⟩ := hmarked hq
  obtain ⟨rfl, rfl⟩ := marked_append_inj ha hb h
  exact ⟨rfl, rfl⟩

/-- Without an authority nothing starts with two slashes. -/
theorem not_slashes_prefix_hierarchy (path : List Char) : ¬ ['/', '/'] <+: hierarchy none path := by
  unfold hierarchy
  by_cases hslashes : ['/', '/'].isPrefixOf path = true
  · simp [hslashes]
  · simp only [hslashes, Bool.false_eq_true, if_false, List.nil_append]
    rwa [List.isPrefixOf_iff_prefix] at hslashes

namespace IsNormal

variable {u v : Url}

theorem authority_notMem (hu : u.IsNormal) {a : List Char} (h : u.authority = some a) : '/' ∉ a := by
  intro hmem
  exact hu.authority a h hmem (by decide)

theorem hierarchy_inj (hu : u.IsNormal) (hv : v.IsNormal)
    (h : hierarchy u.authority u.path = hierarchy v.authority v.path) :
    u.authority = v.authority ∧ u.path = v.path := by
  cases hua : u.authority with
  | some a =>
    cases hva : v.authority with
    | some b =>
      rw [hua, hva] at h
      simp only [hierarchy, List.cons_append, List.cons.injEq, true_and] at h
      obtain ⟨rfl, hpath⟩ := rooted_append_inj (hu.authority_notMem hua) (hv.authority_notMem hva)
        (hu.rooted (by simp [hua])) (hv.rooted (by simp [hva])) h
      exact ⟨rfl, hpath⟩
    | none =>
      rw [hua, hva] at h
      exact (not_slashes_prefix_hierarchy v.path (h ▸ ⟨a ++ u.path, rfl⟩)).elim
  | none =>
    cases hva : v.authority with
    | some b =>
      rw [hua, hva] at h
      exact (not_slashes_prefix_hierarchy u.path (h ▸ ⟨b ++ v.path, rfl⟩)).elim
    | none =>
      rw [hua, hva] at h
      have hudot := hu.undotted (by simp [hu.plain hua])
      have hvdot := hv.undotted (by simp [hv.plain hva])
      -- a dot is put in front of two slashes, and no path starts like that by itself
      have hfront {p : List Char} (hp : ['/', '/'] <+: p) : ['/', '.', '/'] <+: ['/', '.'] ++ p := by
        obtain ⟨r, rfl⟩ := hp
        exact ⟨'/' :: r, rfl⟩
      simp only [hierarchy, List.isPrefixOf_iff_prefix] at h
      refine ⟨rfl, ?_⟩
      split at h <;> split at h
      · exact List.append_cancel_left h
      · rename_i hp _
        rw [List.nil_append] at h
        exact (hvdot (h ▸ hfront hp)).elim
      · rename_i _ hq
        rw [List.nil_append] at h
        exact (hudot (h ▸ hfront hq)).elim
      · exact h

theorem mark_notMem_hierarchy (hu : u.IsNormal) {mark : Char} (hmark : mark ∈ ['?', '#', '\x00']) :
    mark ∉ hierarchy u.authority u.path := by
  have hslash : mark ≠ '/' := by
    rintro rfl
    revert hmark
    decide
  have hdot : mark ≠ '.' := by
    rintro rfl
    revert hmark
    decide
  have hpath : mark ∉ u.path := fun h => hu.path h hmark
  unfold hierarchy
  cases ha : u.authority with
  | some a =>
    have hauthority : mark ∉ a := fun h => hu.authority a ha h (List.mem_cons_of_mem _ hmark)
    simp [hslash, hauthority, hpath]
  | none =>
    by_cases hslashes : ['/', '/'].isPrefixOf u.path = true
    · simp [hslashes, hslash, hdot, hpath]
    · simp [hslashes, hpath]

/-- What stands between the scheme and the fragment has no hash sign. -/
theorem hash_notMem (hu : u.IsNormal) : '#' ∉ hierarchy u.authority u.path ++ marked '?' u.query := by
  rw [List.mem_append, not_or]
  refine ⟨hu.mark_notMem_hierarchy (by decide), ?_⟩
  cases hq : u.query with
  | none => simp [marked]
  | some q =>
    have hmark : '#' ∉ q := fun hmem => hu.query q hq hmem (by decide)
    simpa [marked] using hmark

/-- Normal URLs with the same text are the same. -/
theorem eq_of_chars (hu : u.IsNormal) (hv : v.IsNormal) (h : u.chars = v.chars) : u = v := by
  rw [chars_eq, chars_eq] at h
  obtain ⟨hscheme, hrest⟩ := append_cons_inj (fun hmem => hu.scheme hmem (by decide))
    (fun hmem => hv.scheme hmem (by decide)) h
  obtain ⟨hbefore, hfragment⟩ := marked_append_inj hu.hash_notMem hv.hash_notMem hrest
  obtain ⟨hhierarchy, hq⟩ := marked_append_inj (hu.mark_notMem_hierarchy (by decide))
    (hv.mark_notMem_hierarchy (by decide)) hbefore
  obtain ⟨hauthority, hpath⟩ := hierarchy_inj hu hv hhierarchy
  cases u
  cases v
  simp_all

/-- The text of a normal URL has no zero character. -/
theorem notMem_chars (hu : u.IsNormal) : '\x00' ∉ u.chars := by
  have hscheme : '\x00' ∉ u.scheme := fun hmem => hu.scheme hmem (by decide)
  have hhierarchy : '\x00' ∉ hierarchy u.authority u.path := hu.mark_notMem_hierarchy (by decide)
  have hquery : '\x00' ∉ marked '?' u.query := by
    cases hq : u.query with
    | none => simp [marked]
    | some q =>
      have hmark : '\x00' ∉ q := fun hmem => hu.query q hq hmem (by decide)
      simpa [marked] using hmark
  have hfragment : '\x00' ∉ marked '#' u.fragment := by
    cases hf : u.fragment with
    | none => simp [marked]
    | some f =>
      have hmark : '\x00' ∉ f := fun hmem => hu.fragment f hf hmem (by decide)
      simpa [marked] using hmark
  rw [chars_eq]
  simp [hscheme, hhierarchy, hquery, hfragment]

end IsNormal

end Url

end JsonSchema
