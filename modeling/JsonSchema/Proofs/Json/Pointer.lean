import JsonSchema.Proofs.Json.Contains
import JsonSchema.Proofs.Number.Grammar
import JsonSchema.Proofs.Text

/-!
# Nodes and the pointers to them

A pointer has a token for each step on the way to a node. A token says what the step is called, and for a position there
is one such name only, so reading the tokens one after the other leads where the steps lead. The one exception is the
pointer of the empty key of the document, which is a lone slash: that names the document itself.

## What is here

* `Pointer.index?_eq_some_iff` — **a position has one name**, its digits.
* `Pointer.Step.name`, `Pointer.text` — what a step is called, and the pointer of a sequence of steps.
* `Json.descend?_eq_some_iff` — **tokens lead where steps lead that are called by them**.
* `Json.Contains.exists_walk?` — steps lead to every node of a document without repeated keys.
* `Json.pointers_lead` — **the pointer of every node leads there, and no pointer leads elsewhere**.
-/

set_option autoImplicit false

namespace JsonSchema

/-! ## Positions -/

theorem digitChar_of_isDigit {c : Char} (h : c.isDigit = true) : Nat.digitChar (c.toNat - 48) = c := by
  have hrange := isDigit_range h
  apply Char.toNat_inj.mp
  rw [Nat.toNat_digitChar_of_lt_ten (by omega)]
  omega

/-- Digits without a zero in front are those of the number that they spell. -/
theorem toDigits_digitsValue {cs : List Char} (hdigits : ∀ c ∈ cs, c.isDigit = true) (hne : cs ≠ [])
    (hzero : cs.head? ≠ some '0') : 0 < digitsValue cs ∧ Nat.toDigits 10 (digitsValue cs) = cs := by
  induction cs using List.reverseRecOn with
  | nil => exact absurd rfl hne
  | append_singleton cs c ih =>
    have hdigit : c.isDigit = true := hdigits c (by simp)
    have hrange := isDigit_range hdigit
    have hlast : Nat.toDigits 10 (c.toNat - 48) = [c] := by
      rw [Nat.toDigits_of_lt_base (by omega), digitChar_of_isDigit hdigit]
    rw [digitsValue_append_singleton]
    by_cases hcs : cs = []
    · subst hcs
      have hnot : c ≠ '0' := by simpa using hzero
      have hpos : c.toNat ≠ 48 := fun h => hnot (Char.toNat_inj.mp h)
      simp only [digitsValue, List.foldl_nil, Nat.mul_zero, Nat.zero_add, List.nil_append]
      exact ⟨by omega, hlast⟩
    · rw [List.head?_append_of_ne_nil _ hcs] at hzero
      obtain ⟨hpos, hfront⟩ := ih (fun d hd => hdigits d (by simp [hd])) hcs hzero
      refine ⟨by omega, ?_⟩
      rw [← Nat.toDigits_append_toDigits (by decide) hpos (by omega), hfront, hlast]

/-- Only zero is written with a zero in front. -/
theorem head?_toDigits {n : Nat} (h : 0 < n) : (Nat.toDigits 10 n).head? ≠ some '0' := by
  induction n using Nat.strongRecOn with
  | ind n ih =>
    by_cases hsmall : n < 10
    · rw [Nat.toDigits_of_lt_base hsmall]
      simp only [List.head?_cons, ne_eq, Option.some.injEq, Nat.digitChar_eq_zero]
      omega
    · have hsplit : Nat.toDigits 10 n = Nat.toDigits 10 (n / 10) ++ Nat.toDigits 10 (n % 10) := by
        rw [Nat.toDigits_append_toDigits (by decide) (by omega) (by omega), Nat.div_add_mod]
      rw [hsplit, List.head?_append_of_ne_nil _ Nat.toDigits_ne_nil]
      exact ih (n / 10) (by omega) (by omega)

namespace Pointer

theorem index?_of_head? {cs : List Char} (hne : cs ≠ []) (hzero : cs.head? ≠ some '0') :
    index? cs = if cs.all Char.isDigit then some (digitsValue cs) else none := by
  unfold index?
  split
  · exact absurd rfl hne
  · exact absurd rfl hzero
  · exact absurd rfl hzero
  · rfl

/-- A position has one name: its digits. -/
theorem index?_eq_some_iff {cs : List Char} {n : Nat} : index? cs = some n ↔ cs = Nat.toDigits 10 n := by
  constructor
  · intro h
    unfold index? at h
    split at h
    · cases h
    · cases h
      exact Nat.toDigits_zero 10 |>.symm
    · cases h
    · rename_i hne _ hzero
      split at h
      · rename_i hdigits
        have hhead : cs.head? ≠ some '0' := by
          rw [Ne, List.head?_eq_some_iff]
          rintro ⟨ds, rfl⟩
          exact hzero ds rfl
        cases h
        exact (toDigits_digitsValue (List.all_eq_true.mp hdigits) hne hhead).2.symm
      · cases h
  · rintro rfl
    rcases Nat.eq_zero_or_pos n with rfl | hpos
    · rfl
    · have hdigits : (Nat.toDigits 10 n).all Char.isDigit = true := List.all_eq_true.mpr isDigit_of_mem_toDigits
      rw [index?_of_head? Nat.toDigits_ne_nil (head?_toDigits hpos), if_pos hdigits, digitsValue_toDigits]

/-! ## Tokens -/

/-- What a step is called: its key, or its position in decimal. -/
def Step.name : Step → List Char
  | .key name => name.toList
  | .index position => Nat.toDigits 10 position

/-- The pointer of a sequence of steps: for each of them a slash and its token. -/
def text (steps : List Step) : String := String.ofList (steps.flatMap fun step => '/' :: step.token)

theorem slash_notMem_escape (cs : List Char) : '/' ∉ escape cs := by
  fun_induction escape cs with
  | case1 => exact List.not_mem_nil
  | case2 cs ih => simpa using ih
  | case3 cs ih => simpa using ih
  | case4 c cs _ hslash ih => simpa [ih] using fun h => hslash h.symm

theorem slash_notMem_token (step : Step) : '/' ∉ step.token := by
  cases step with
  | key name => exact slash_notMem_escape _
  | index position => exact fun h => absurd (isDigit_of_mem_toDigits _ h) (by decide)

/-- Without tildes a token stands for itself. -/
theorem unescape_of_notMem {cs : List Char} (h : '~' ∉ cs) : unescape cs = cs := by
  fun_induction unescape cs with
  | case1 | case2 => simp at h
  | case3 c cs _ _ ih => rw [ih fun hc => h (List.mem_cons_of_mem c hc)]
  | case4 => rfl

/-- The token of a step stands for what the step is called. -/
theorem unescape_token (step : Step) : unescape step.token = step.name := by
  cases step with
  | key name => exact unescape_escape _
  | index position => exact unescape_of_notMem fun h => absurd (isDigit_of_mem_toDigits _ h) (by decide)

/-- Only the empty key has an empty name. -/
theorem token_eq_nil_iff {step : Step} : step.token = [] ↔ step = .key "" := by
  refine ⟨fun h => ?_, fun h => h ▸ rfl⟩
  have hname : step.name = [] := by rw [← unescape_token, h, unescape]
  cases step with
  | key name => rw [String.toList_eq_nil_iff.mp hname]
  | index position => exact absurd hname Nat.toDigits_ne_nil

theorem flatMap_slash {tokens : List (List Char)} (h : tokens ≠ []) :
    (tokens.flatMap fun token => '/' :: token) = '/' :: Text.joinWith '/' tokens := by
  induction tokens with
  | nil => exact absurd rfl h
  | cons token tokens ih =>
    by_cases hlast : tokens = []
    · subst hlast
      simp [Text.joinWith]
    · rw [List.flatMap_cons, ih hlast, Text.joinWith_cons hlast]
      rfl

/-- The tokens behind the first slash of a pointer. There is nothing there for the empty key only. -/
theorem exists_toList_text {steps : List Step} (hne : steps ≠ []) (hkey : steps ≠ [.key ""]) :
    ∃ rest, (text steps).toList = '/' :: rest ∧ rest ≠ [] ∧ Text.splitOn '/' rest = steps.map Step.token := by
  have htokens : steps.map Step.token ≠ [] := by simpa using hne
  have hslash : ∀ token ∈ steps.map Step.token, '/' ∉ token := by simpa using fun step _ => slash_notMem_token step
  refine ⟨Text.joinWith '/' (steps.map Step.token), ?_, fun hnil => ?_, Text.splitOn_joinWith htokens hslash⟩
  · rw [text, String.toList_ofList, ← flatMap_slash htokens, List.flatMap_map]
  · -- nothing is split into one empty piece
    have hsplit := Text.splitOn_joinWith htokens hslash
    rw [hnil] at hsplit
    obtain ⟨step, hstep, htoken⟩ := List.map_eq_singleton_iff.mp hsplit.symm
    exact hkey (by rw [hstep, token_eq_nil_iff.mp htoken])

end Pointer

open Pointer (Step)

namespace Json

variable {document j k node : Json} {token : List Char} {tokens : List (List Char)}

/-- A token leads where the step leads that is called by it. -/
theorem child?_eq_some_iff :
    j.child? token = some k ↔ ∃ step : Step, step.name = Pointer.unescape token ∧ j.follow? step = some k := by
  cases j with
  | object members =>
    constructor
    · intro h
      exact ⟨.key (String.ofList (Pointer.unescape token)), String.toList_ofList, h⟩
    · rintro ⟨_ | _, hname, hk⟩
      · rw [child?, ← hname, Step.name, String.ofList_toList]
        exact hk
      · exact nomatch hk
  | array elements =>
    rw [child?, Option.bind_eq_some_iff]
    constructor
    · rintro ⟨n, hn, hk⟩
      exact ⟨.index n, (Pointer.index?_eq_some_iff.mp hn).symm, hk⟩
    · rintro ⟨_ | n, hname, hk⟩
      · exact nomatch hk
      · exact ⟨n, Pointer.index?_eq_some_iff.mpr hname.symm, hk⟩
  | _ => exact iff_of_false (fun h => nomatch h) (by rintro ⟨_ | _, -, hk⟩ <;> exact nomatch hk)

/-- Tokens lead where steps lead that are called by them. -/
theorem descend?_eq_some_iff : j.descend? tokens = some k ↔
    ∃ steps : List Step, steps.map Step.name = tokens.map Pointer.unescape ∧ j.walk? steps = some k := by
  induction tokens generalizing j with
  | nil => simp [descend?, walk?]
  | cons token tokens ih =>
    rw [descend?, Option.bind_eq_some_iff]
    constructor
    · rintro ⟨next, hnext, hk⟩
      obtain ⟨step, hname, hstep⟩ := child?_eq_some_iff.mp hnext
      obtain ⟨steps, hnames, hsteps⟩ := ih.mp hk
      refine ⟨step :: steps, by rw [List.map_cons, List.map_cons, hname, hnames], ?_⟩
      rw [walk?, hstep]
      exact hsteps
    · rintro ⟨_ | ⟨step, steps⟩, hnames, hk⟩
      · cases hnames
      · obtain ⟨hname, hnames⟩ := List.cons.inj hnames
        obtain ⟨next, hnext, hk⟩ := Option.bind_eq_some_iff.mp hk
        exact ⟨next, child?_eq_some_iff.mpr ⟨step, hname, hnext⟩, ih.mpr ⟨steps, hnames, hk⟩⟩

/-- Behind a slash a fragment is read as tokens, if there is anything. -/
theorem navigate?_tokens {fragment : String} {rest : List Char}
    (hfragment : fragment.toList.dropWhile (· == '#') = '/' :: rest) (hrest : rest ≠ []) :
    document.navigate? fragment = document.descend? (Text.splitOn '/' rest) := by
  obtain ⟨c, rest, rfl⟩ := List.exists_cons_of_ne_nil hrest
  rw [navigate?, hfragment]
  rfl

/-- The pointer of a sequence of steps leads where they lead, also behind hash signs. -/
theorem navigate?_text {steps : List Step} {fragment : String} (h : document.walk? steps = some node)
    (hkey : steps ≠ [.key ""]) (hfragment : fragment.toList.dropWhile (· == '#') = (Pointer.text steps).toList) :
    document.navigate? fragment = some node := by
  by_cases hne : steps = []
  · subst hne
    rw [navigate?, hfragment]
    exact h
  · obtain ⟨rest, htext, hrest, hsplit⟩ := Pointer.exists_toList_text hne hkey
    have hnames : steps.map Step.name = (steps.map Step.token).map Pointer.unescape := by
      simp [Function.comp_def, Pointer.unescape_token]
    rw [navigate?_tokens (hfragment.trans htext) hrest, hsplit]
    exact descend?_eq_some_iff.mpr ⟨steps, hnames, h⟩

/-- No pointer starts with a hash sign. -/
theorem dropWhile_text (steps : List Step) :
    (Pointer.text steps).toList.dropWhile (· == '#') = (Pointer.text steps).toList := by
  rw [Pointer.text, String.toList_ofList]
  cases steps <;> rfl

/-- Steps lead to every node of a document without repeated keys. -/
theorem Contains.exists_walk? (hd : j.DistinctKeys) (h : j.Contains k) : ∃ steps, j.walk? steps = some k := by
  induction h with
  | here j => exact ⟨[], rfl⟩
  | @element elements e k he _ ih =>
    obtain ⟨n, hn⟩ := List.mem_iff_getElem?.mp he
    have hfollow : (array elements).follow? (.index n) = some e := hn
    obtain ⟨steps, hsteps⟩ := ih (hd.follow? hfollow)
    exact ⟨.index n :: steps, by rw [walk?, hfollow]; exact hsteps⟩
  | @member members name v k hv _ ih =>
    have hfollow : (object members).follow? (.key name) = some v := find?_of_mem hd.1 hv
    obtain ⟨steps, hsteps⟩ := ih (hd.follow? hfollow)
    exact ⟨.key name :: steps, by rw [walk?, hfollow]; exact hsteps⟩

/-- **Every node has a pointer that leads there, and pointers lead nowhere else.** Steps lead to every node, if no key is
repeated. Their pointer, with a hash sign before it or without, names the node to which they lead, with the exception of
the empty key of the document: its pointer names the document. And what stands behind the first slash of a fragment names
a node exactly if there are steps to the node that are called as its tokens say. -/
theorem pointers_lead (document : Json) :
    (document.DistinctKeys → ∀ node, document.Contains node → ∃ steps, document.walk? steps = some node) ∧
      (∀ steps node, document.walk? steps = some node → steps ≠ [.key ""] →
        document.navigate? ("#" ++ Pointer.text steps) = some node ∧
          document.navigate? (Pointer.text steps) = some node) ∧
      document.navigate? ("#" ++ Pointer.text [.key ""]) = some document ∧
      ∀ rest, rest ≠ "" → ∀ node, document.navigate? ("#/" ++ rest) = some node ↔
        ∃ steps : List Step, steps.map Step.name = (Text.splitOn '/' rest.toList).map Pointer.unescape ∧
          document.walk? steps = some node := by
  refine ⟨fun hd node h => h.exists_walk? hd, fun steps node h hkey => ⟨?_, ?_⟩, rfl, fun rest hrest node => ?_⟩
  · refine navigate?_text h hkey ?_
    have hhash : ("#" ++ Pointer.text steps).toList = '#' :: (Pointer.text steps).toList := by simp
    rw [hhash, List.dropWhile_cons_of_pos rfl, dropWhile_text]
  · exact navigate?_text h hkey (dropWhile_text steps)
  · have hfragment : ("#/" ++ rest).toList.dropWhile (· == '#') = '/' :: rest.toList := by
      rw [String.toList_append]
      rfl
    rw [navigate?_tokens hfragment (mt String.toList_eq_nil_iff.mp hrest)]
    exact descend?_eq_some_iff

/-- Keys that look like escapes, positions and hash signs. -/
theorem pointers_lead_of_marks :
    let document : Json := .object [("a/b", .array [.null, .object [("~1", .object [("", .object [("#", .bool true)])])]])]
    document.DistinctKeys ∧ document.Contains (.bool true) ∧
      (∃ steps, document.walk? steps = some (.bool true)) ∧
      document.navigate? "#/a~1b/1/~01//#" = some (.bool true) ∧ document.navigate? "/a~1b/1/~01//#" = some (.bool true) ∧
      ∃ steps : List Step, steps.map Step.name = [['a', '/', 'b'], ['1'], ['~', '1'], [], ['#']] ∧
        document.walk? steps = some (.bool true) := by
  intro document
  let steps : List Step := [.key "a/b", .index 1, .key "~1", .key "", .key "#"]
  have hwalk : document.walk? steps = some (.bool true) := by rfl
  have hdistinct : document.DistinctKeys := by simp [document, DistinctKeys, DistinctKeys.elements, DistinctKeys.members]
  have hcontains : document.Contains (.bool true) := contains_of_walk? hwalk
  obtain ⟨hnodes, hpointers, -, htokens⟩ := pointers_lead document
  have hpointer : Pointer.text steps = "/a~1b/1/~01//#" := by decide
  obtain ⟨hhash, hplain⟩ := hpointers steps _ hwalk (by decide)
  rw [hpointer] at hhash hplain
  exact ⟨hdistinct, hcontains, hnodes hdistinct _ hcontains, hhash, hplain,
    (htokens "a~1b/1/~01//#" (by decide) _).mp hhash⟩

end Json

end JsonSchema
