import JsonSchema.Digest.Sha256
import JsonSchema.Plan.Key
import JsonSchema.Proofs.Json.Text
import JsonSchema.Proofs.Url.Reading

/-!
# Keys tell places apart

A key is a digest of a text in which the schema, the base and the document are written one after the other. If the
digest tells texts apart, two places with the same key are the same, except that the scope does not count where
nothing depends on it.

## What is here

* `TellsApart` — what is asked of a digest; `digestAmong`, SHA-256 on some texts, made to fit on all others.
* `Scope.IsNormal` — a scope whose base is a normal URL; entering schemas and following references keeps to such.
* `eq_of_planKey` — **places with the same key**.
-/

set_option autoImplicit false

namespace JsonSchema

/-- What is asked of a digest: different texts have different digests, and none contains a zero character. -/
structure TellsApart (digest : String → String) : Prop where
  injective : Function.Injective digest
  clean : ∀ text, '\x00' ∉ (digest text).toList

/-- The digits of a digest. -/
theorem Sha256.exists_of_mem_hex {text : String} {c : Char} (h : c ∈ (hex text).toList) :
    ∃ n < 16, c = Nat.digitChar n := by
  simp only [hex, String.toList_ofList, List.mem_flatMap, wordHex, List.mem_map] at h
  obtain ⟨w, -, i, -, rfl⟩ := h
  exact ⟨_, Nat.mod_lt _ (by decide), rfl⟩

theorem Sha256.notMem_hex {text : String} {c : Char} (hc : ∀ n < 16, Nat.digitChar n ≠ c) :
    c ∉ (hex text).toList := by
  intro h
  obtain ⟨n, hn, rfl⟩ := exists_of_mem_hex h
  exact hc n hn rfl

/-- A character without zero characters, so that none begins like another one. -/
def spelled (c : Char) : List Char :=
  if c = '\x00' then ['0', '0'] else if c = '0' then ['0', '1'] else [c]

theorem notMem_spelled (c : Char) : '\x00' ∉ spelled c := by
  unfold spelled
  split_ifs with h
  · simp
  · simp
  · simp [Ne.symm h]

theorem spelled_append_inj {c d : Char} {s t : List Char} (h : spelled c ++ s = spelled d ++ t) : c = d ∧ s = t := by
  unfold spelled at h
  split_ifs at h <;> grind

theorem spelled_append_ne_nil (c : Char) (s : List Char) : spelled c ++ s ≠ [] := by
  unfold spelled
  split_ifs <;> simp

theorem flatMap_spelled_injective : Function.Injective (List.flatMap spelled) := by
  intro s t h
  induction s generalizing t with
  | nil =>
    cases t with
    | nil => rfl
    | cons d t => exact (spelled_append_ne_nil d _ h.symm).elim
  | cons c s ih =>
    cases t with
    | nil => exact (spelled_append_ne_nil c _ h).elim
    | cons d t =>
      obtain ⟨rfl, hrest⟩ := spelled_append_inj h
      rw [ih hrest]

/-- SHA-256 on some texts. All others are spelled out, after a character that is not a digit. -/
def digestAmong (texts : List String) (text : String) : String :=
  if text ∈ texts then Sha256.hex text else String.ofList ('x' :: text.toList.flatMap spelled)

theorem tellsApart_digestAmong {texts : List String} (h : (texts.map Sha256.hex).Nodup) :
    TellsApart (digestAmong texts) where
  injective := by
    have hne (s t : String) : Sha256.hex s ≠ String.ofList ('x' :: t.toList.flatMap spelled) := by
      intro heq
      have hx : 'x' ∈ (Sha256.hex s).toList := by
        rw [heq]
        simp
      exact Sha256.notMem_hex (by decide) hx
    intro s t heq
    unfold digestAmong at heq
    split at heq <;> split at heq
    · rename_i hs ht
      exact List.inj_on_of_nodup_map h hs ht heq
    · exact (hne _ _ heq).elim
    · exact (hne _ _ heq.symm).elim
    · have hlist := List.cons.inj (String.ofList_injective heq)
      exact String.toList_injective (flatMap_spelled_injective hlist.2)
  clean := by
    intro text
    unfold digestAmong
    split
    · exact Sha256.notMem_hex (by decide)
    · simp only [String.toList_ofList, List.mem_cons, List.mem_flatMap, not_or, not_exists, not_and]
      exact ⟨by decide, fun c _ => notMem_spelled c⟩

theorem lookup_zip_map (f : String → String) (texts : List String) (text : String) :
    (texts.zip (texts.map f)).lookup text = if text ∈ texts then some (f text) else none := by
  induction texts with
  | nil => rfl
  | cons t ts ih =>
    rw [List.map_cons, List.zip_cons_cons, List.lookup_cons, ih]
    by_cases h : text = t
    · simp [h]
    · simp [h, beq_eq_false_iff_ne.mpr h]

/-- Where the digests of the texts are known, they can be looked up. -/
theorem digestAmong_eq_lookup {texts digests : List String} (h : texts.map Sha256.hex = digests) :
    digestAmong texts = fun text =>
      ((texts.zip digests).lookup text).getD (String.ofList ('x' :: text.toList.flatMap spelled)) := by
  funext text
  rw [← h, lookup_zip_map, digestAmong]
  split <;> rfl

/-! ## Scopes -/

namespace Scope

/-- The base is a normal URL, if there is one. -/
def IsNormal (scope : Scope) : Prop := ∀ b ∈ scope.base, b.IsNormal

theorem absolute?_isNormal {base : Option Url} {uri : String} {u : Url} (hbase : ∀ b ∈ base, b.IsNormal)
    (h : absolute? base uri = .ok (some u)) : u.IsNormal := by
  unfold absolute? at h
  split at h
  · rename_i read hread
    cases h
    exact Url.read?_isNormal hbase hread
  · exact nomatch h
  · exact nomatch h

theorem IsNormal.enter {scope inner : Scope} {members : Members} (hs : scope.IsNormal)
    (h : scope.enter members = .ok inner) : inner.IsNormal := by
  unfold Scope.enter at h
  split at h
  · split at h
    · cases h
      exact hs
    · obtain ⟨url, hurl, h⟩ := except_bind_eq_ok.mp h
      split at h
      · cases h
        intro b hb
        rw [← Option.mem_some_iff.mp hb]
        exact absolute?_isNormal hs hurl
      · cases h
        exact hs
  · cases h
    exact hs

/-- A reference leads to a place with a normal scope. -/
theorem IsNormal.resolve {scope : Scope} {library : Library} {uri : String} {target : Target} (hs : scope.IsNormal)
    (h : (scope.resolve library uri).outcome = .ok target) : target.scope.IsNormal := by
  unfold Scope.resolve at h
  split at h
  · unfold resolveLocal at h
    rw [Run.outcome_ofExcept] at h
    split at h
    · cases h
      exact hs
    · exact nomatch h
  · split at h
    · exact nomatch h
    · rename_i reference hsplit
      have hbase : ∀ b ∈ reference.base, b.IsNormal := by
        unfold split at hsplit
        obtain ⟨url, hurl, hsplit⟩ := except_bind_eq_ok.mp hsplit
        split at hsplit
        · cases hsplit
          intro b hb
          rw [← Option.mem_some_iff.mp hb]
          exact (absolute?_isNormal hs hurl).withoutFragment
        · cases hsplit
          simp
      rw [Run.outcome_requesting] at h
      unfold Reference.follow at h
      split at h
      · exact nomatch h
      · split at h
        · cases h
          exact hbase
        · exact nomatch h

/-! ## The text of a scope -/

/-- The text of the base, which is empty if there is none. -/
def baseText (scope : Scope) : List Char := ((scope.base.map Url.text).getD "").toList

theorem IsNormal.notMem_baseText {scope : Scope} (hs : scope.IsNormal) : '\x00' ∉ scope.baseText := by
  unfold baseText
  cases hb : scope.base with
  | none => simp
  | some b => simpa [Url.text] using (hs b hb).notMem_chars

theorem IsNormal.eq_of_baseText {s t : Scope} (hs : s.IsNormal) (ht : t.IsNormal) (h : s.baseText = t.baseText) :
    s.base = t.base := by
  have hcolon (u : Url) : u.chars ≠ [] := by
    rw [Url.chars_eq]
    simp
  unfold baseText at h
  cases hsb : s.base with
  | none =>
    cases htb : t.base with
    | none => rfl
    | some b =>
      rw [hsb, htb] at h
      exact absurd (by simpa [Url.text] using h.symm) (hcolon b)
  | some a =>
    cases htb : t.base with
    | none =>
      rw [hsb, htb] at h
      exact absurd (by simpa [Url.text] using h) (hcolon a)
    | some b =>
      rw [hsb, htb] at h
      have hchars : a.chars = b.chars := by simpa [Url.text] using h
      rw [Url.IsNormal.eq_of_chars (hs a hsb) (ht b htb) hchars]

end Scope

/-! ## The text of a key -/

/-- A mark that occurs in neither part behind it shows where those parts start. -/
theorem append_cons_inj_behind {α : Type} {a : α} {x y r s : List α} (hr : a ∉ r) (hs : a ∉ s)
    (h : x ++ a :: r = y ++ a :: s) : x = y ∧ r = s := by
  have hreverse : r.reverse ++ a :: x.reverse = s.reverse ++ a :: y.reverse := by
    simpa using congrArg List.reverse h
  obtain ⟨hrs, hxy⟩ := append_cons_inj (by simpa using hr) (by simpa using hs) hreverse
  exact ⟨List.reverse_injective hxy, List.reverse_injective hrs⟩

/-- The text of a scope behind the mark that it starts with. -/
def scopeTail (digest : String → String) (scope : Scope) : List Char :=
  ['b', 'a', 's', 'e', ':'] ++ scope.baseText ++
    '\x00' :: (['r', 'o', 'o', 't', ':'] ++ (digest scope.root.text).toList)

theorem toList_scopeText (digest : String → String) (scope : Scope) :
    (scopeText digest scope).toList = '\x00' :: scopeTail digest scope := by
  simp [scopeText, scopeTail, Scope.baseText]

variable {digest : String → String}

/-- The text of a scope determines the scope, whatever stands before it. -/
theorem eq_of_scopeText (hd : TellsApart digest) {s t : Scope} (hs : s.IsNormal) (ht : t.IsNormal)
    {x y : List Char} (h : x ++ '\x00' :: scopeTail digest s = y ++ '\x00' :: scopeTail digest t) : x = y ∧ s = t := by
  have hroot (scope : Scope) : '\x00' ∉ ['r', 'o', 'o', 't', ':'] ++ (digest scope.root.text).toList := by
    simpa using hd.clean scope.root.text
  have hbase {scope : Scope} (hscope : scope.IsNormal) : '\x00' ∉ ['b', 'a', 's', 'e', ':'] ++ scope.baseText := by
    simpa using hscope.notMem_baseText
  have hparts : (x ++ '\x00' :: (['b', 'a', 's', 'e', ':'] ++ s.baseText)) ++
        '\x00' :: (['r', 'o', 'o', 't', ':'] ++ (digest s.root.text).toList) =
      (y ++ '\x00' :: (['b', 'a', 's', 'e', ':'] ++ t.baseText)) ++
        '\x00' :: (['r', 'o', 'o', 't', ':'] ++ (digest t.root.text).toList) := by
    simpa [scopeTail] using h
  obtain ⟨hfront, hroots⟩ := append_cons_inj_behind (hroot s) (hroot t) hparts
  obtain ⟨hxy, hbases⟩ := append_cons_inj_behind (hbase hs) (hbase ht) hfront
  have hrootEq : s.root = t.root :=
    Json.text_injective (hd.injective (String.toList_injective (List.append_cancel_left hroots)))
  have hbaseEq : s.base = t.base := hs.eq_of_baseText ht (List.append_cancel_left hbases)
  cases s
  cases t
  simp_all

namespace Subschema

/-- Whether the scope matters for what a place means. -/
def dependsOnScope : Subschema → Bool
  | .schema j => j.dependsOnScope
  | .reference _ => true

end Subschema

theorem notMem_text (j : Json) : '\x00' ∉ j.text.toList := by
  intro hmem
  have hspace := Json.space_le_of_mem_chars j (c := '\x00') (by simpa [Json.text] using hmem)
  exact absurd hspace (by decide)

/-- No schema has the text that references start with. -/
theorem text_ne_extends (j : Json) : j.text.toList ≠ ['e', 'x', 't', 'e', 'n', 'd', 's'] := by
  intro h
  have hchars : Json.chars j = ['e', 'x', 't', 'e', 'n', 'd', 's'] := by simpa [Json.text] using h
  obtain ⟨c, cs, hhead, hkind⟩ := Json.exists_head_chars j
  rw [hchars] at hhead
  have hnumber : j.kind = "number" := by
    rw [← hkind, ← (List.cons.inj hhead).1]
    rfl
  obtain ⟨s, hs⟩ := Json.exists_spelling hnumber
  have hletter : Spelling.IsNumeric 'x' := Spelling.isNumeric_of_mem_chars (s := s) (by simp [hs, hchars])
  exact absurd hletter (by decide)

/-- The text of a schema, and behind a mark the text of the scope, if it matters. -/
theorem toList_keyText_schema (digest : String → String) (scope : Scope) (j : Json) :
    (keyText digest scope (.schema j)).toList =
      j.text.toList ++ Url.marked '\x00' (if j.dependsOnScope then some (scopeTail digest scope) else none) := by
  by_cases hj : j.dependsOnScope = true
  · simp [keyText, hj, toList_scopeText, Url.marked]
  · simp [keyText, hj, Url.marked]

theorem toList_keyText_reference (digest : String → String) (scope : Scope) (uri : String) :
    (keyText digest scope (.reference uri)).toList = ['e', 'x', 't', 'e', 'n', 'd', 's'] ++
      Url.marked '\x00' (some (uri.toList ++ '\x00' :: scopeTail digest scope)) := by
  simp [keyText, toList_scopeText, Url.marked]

theorem schema_ne_reference {s t : Scope} {j : Json} {uri : String} :
    (keyText digest s (.schema j)).toList ≠ (keyText digest t (.reference uri)).toList := by
  intro h
  rw [toList_keyText_schema, toList_keyText_reference] at h
  exact text_ne_extends j (Url.marked_append_inj (notMem_text j) (by decide) h).1

/-- Places with the same key are the same, and so are their scopes, if the scope matters. -/
theorem eq_of_planKey (hd : TellsApart digest) {s t : Scope} (hs : s.IsNormal) (ht : t.IsNormal) {x y : Subschema}
    (h : planKey digest s x = planKey digest t y) : x = y ∧ (x.dependsOnScope = true → s = t) := by
  have htext : (keyText digest s x).toList = (keyText digest t y).toList := congrArg _ (hd.injective h)
  cases x with
  | schema j =>
    cases y with
    | schema k =>
      rw [toList_keyText_schema, toList_keyText_schema] at htext
      obtain ⟨hjk, hrest⟩ := Url.marked_append_inj (notMem_text j) (notMem_text k) htext
      have heq : j = k := Json.text_injective (String.toList_injective hjk)
      subst heq
      refine ⟨rfl, fun hmatters => ?_⟩
      have hj : j.dependsOnScope = true := hmatters
      rw [if_pos hj, if_pos hj] at hrest
      exact (eq_of_scopeText hd hs ht (x := []) (y := []) (by rw [Option.some.inj hrest])).2
    | reference uri => exact (schema_ne_reference htext).elim
  | reference uri =>
    cases y with
    | schema k => exact (schema_ne_reference htext.symm).elim
    | reference uri' =>
      rw [toList_keyText_reference, toList_keyText_reference] at htext
      have hmarked := Option.some.inj (Url.marked_append_inj (by decide) (by decide) htext).2
      obtain ⟨huri, hscope⟩ := eq_of_scopeText hd hs ht hmarked
      exact ⟨by rw [String.toList_injective huri], fun _ => hscope⟩

end JsonSchema
