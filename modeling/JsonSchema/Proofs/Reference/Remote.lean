import JsonSchema.Proofs.Json.Pointer
import JsonSchema.Proofs.Reference.Place
import JsonSchema.Proofs.Url.Fragment
import JsonSchema.Scope

/-!
# References into other documents

A reference that starts with a hash sign names a node as it is written. Behind a location the same text goes through the
reader of URLs, and nothing is decoded before the node is looked up: what the reader leaves out or encodes is looked up
as it shows in the URL. So the two agree for pointers that a URL shows as they are, and for no others in all documents.

## What is here

* `Url.written` — a text as a URL shows it behind its hash sign. `Url.IsPlain` — it shows the text as it is,
  `Url.written_eq_iff`.
* `Json.chain` — the document of a single way. `Json.exists_navigate?_ne` — **a pointer that is not plain is looked up
  differently in some document**.
* `Scope.resolve_hash` — a reference to a location with a pointer behind it. `Scope.resolve_relative` — one to a location
  that stays relative.
* `Scope.resolve_remote` — **where such a reference leads**, and when it leads where the pointer does inside the document.
-/

set_option autoImplicit false

namespace JsonSchema

/-! ## Fragments as they are shown -/

namespace Url

/-- A text as a URL shows it behind its hash sign. -/
def written (text : String) : String := String.ofList (Percent.encode Percent.Set.fragment (kept text.toList))

/-- Whether a URL shows a character of its fragment without encoding it. -/
def showsAsIs (c : Char) : Bool := decide (c.toNat ≤ 127) && !Percent.Set.fragment c

theorem showsAsIs_iff {c : Char} : showsAsIs c = true ↔ c.toNat ≤ 127 ∧ Percent.Set.fragment c = false := by
  rw [showsAsIs, Bool.and_eq_true, decide_eq_true_eq, Bool.not_eq_true']

/-- A URL shows the text as it is: nothing in it is encoded, and so nothing is left out either. -/
def IsPlain (text : String) : Prop := ∀ c ∈ text.toList, showsAsIs c = true

instance (text : String) : Decidable (IsPlain text) := decidable_of_iff (text.toList.all showsAsIs) List.all_eq_true

variable {text : String}

/-- What is shown is plain. -/
theorem isPlain_written (text : String) : IsPlain (written text) := by
  have hbytes : Percent.byteChars.all showsAsIs = true := by decide
  intro c hc
  rw [written, String.toList_ofList] at hc
  rcases Percent.mem_or_of_mem_encode hc with ⟨-, hplain⟩ | hbyte
  · exact showsAsIs_iff.mpr hplain
  · exact List.all_eq_true.mp hbytes c hbyte

/-- What is shown as it is stays as it is. -/
theorem encode_of_showsAsIs {cs : List Char} (h : ∀ c ∈ cs, showsAsIs c = true) :
    Percent.encode Percent.Set.fragment cs = cs := by
  induction cs with
  | nil => rfl
  | cons c cs ih =>
    obtain ⟨hc, hcs⟩ := List.forall_mem_cons.mp h
    obtain ⟨hascii, hplain⟩ := showsAsIs_iff.mp hc
    have hnot : ¬ (c.toNat > 127 || Percent.Set.fragment c) = true := by simp [hplain, hascii]
    rw [Percent.encode, List.flatMap_cons, if_neg hnot]
    exact congrArg (c :: ·) (ih hcs)

theorem written_eq_iff : written text = text ↔ IsPlain text := by
  refine ⟨fun h => h ▸ isPlain_written text, fun h => ?_⟩
  have hvisible : Visible text.toList :=
    fun c hc => Percent.visible_of_plain (by decide) (showsAsIs_iff.mp (h c hc)).2
  rw [written, kept_of_visible hvisible, encode_of_showsAsIs h, String.ofList_toList]

end Url

open Url

/-! ## Pointers that are looked up differently -/

section Tokens

variable {token cs : List Char} {c : Char}

theorem Pointer.mem_unescape (h : c ∈ unescape token) : c ∈ token ∨ c ∈ ['~', '/'] := by
  fun_induction unescape token with
  | case1 cs ih =>
    rcases List.mem_cons.mp h with rfl | h
    · exact .inr (by decide)
    · exact (ih h).imp_left fun hmem => List.mem_cons_of_mem _ (List.mem_cons_of_mem _ hmem)
  | case2 cs ih =>
    rcases List.mem_cons.mp h with rfl | h
    · exact .inr (by decide)
    · exact (ih h).imp_left fun hmem => List.mem_cons_of_mem _ (List.mem_cons_of_mem _ hmem)
  | case3 d cs _ _ ih =>
    rcases List.mem_cons.mp h with rfl | h
    · exact .inl List.mem_cons_self
    · exact (ih h).imp_left (List.mem_cons_of_mem d)
  | case4 => exact absurd h List.not_mem_nil

theorem Pointer.mem_unescape_of_mem (h : c ∈ token) : c ∈ unescape token ∨ c ∈ ['~', '0', '1'] := by
  fun_induction unescape token with
  | case1 cs ih =>
    rcases List.mem_cons.mp h with rfl | h
    · exact .inr (by decide)
    rcases List.mem_cons.mp h with rfl | h
    · exact .inr (by decide)
    · exact (ih h).imp_left (List.mem_cons_of_mem _)
  | case2 cs ih =>
    rcases List.mem_cons.mp h with rfl | h
    · exact .inr (by decide)
    rcases List.mem_cons.mp h with rfl | h
    · exact .inr (by decide)
    · exact (ih h).imp_left (List.mem_cons_of_mem _)
  | case3 d cs _ _ ih =>
    rcases List.mem_cons.mp h with rfl | h
    · exact .inl List.mem_cons_self
    · exact (ih h).imp_left (List.mem_cons_of_mem d)
  | case4 => exact absurd h List.not_mem_nil

end Tokens

namespace Json

/-- The document in which only some tokens lead to `null`, and what is on the way there. -/
def chain : List (List Char) → Json
  | [] => .null
  | token :: tokens => .object [(String.ofList (Pointer.unescape token), chain tokens)]

theorem descend?_chain (tokens others : List (List Char)) :
    (chain tokens).descend? others = some .null ↔ others.map Pointer.unescape = tokens.map Pointer.unescape := by
  induction tokens generalizing others with
  | nil =>
    cases others with
    | nil => exact iff_of_true rfl rfl
    | cons other others => exact iff_of_false (Option.some_ne_none _).symm (List.cons_ne_nil _ _)
  | cons token tokens ih =>
    cases others with
    | nil => exact iff_of_false (fun h => Json.noConfusion (Option.some.inj h)) (List.cons_ne_nil _ _).symm
    | cons other others =>
      have hchild : (chain (token :: tokens)).child? other =
          if Pointer.unescape other = Pointer.unescape token then some (chain tokens) else none := by
        rw [chain, child?, find?, List.lookup_cons, List.lookup_nil]
        by_cases hname : Pointer.unescape other = Pointer.unescape token
        · simp [hname]
        · have hne : (String.ofList (Pointer.unescape other) == String.ofList (Pointer.unescape token)) = false :=
            beq_eq_false_iff_ne.mpr fun h => hname (String.ofList_injective h)
          rw [hne, if_neg hname]
      rw [descend?, hchild, List.map_cons, List.map_cons, List.cons.injEq]
      split
      · rename_i hname
        rw [Option.bind_some, ih]
        exact (and_iff_right hname).symm
      · rename_i hname
        exact iff_of_false (Option.some_ne_none _).symm fun h => hname h.1

theorem navigate?_slash {document : Json} {pointer : String} {rest : List Char} (hpointer : pointer.toList = '/' :: rest)
    (hrest : rest ≠ []) : document.navigate? ("#" ++ pointer) = document.descend? (Text.splitOn '/' rest) := by
  have hlist : ("#" ++ pointer).toList = '#' :: '/' :: rest := by simp [hpointer]
  exact navigate?_tokens (by rw [hlist]; rfl) hrest

/-- **A pointer that is not plain is looked up differently in some document.** -/
theorem exists_navigate?_ne {pointer : String} (hslash : pointer.toList.head? = some '/') (hplain : ¬ IsPlain pointer) :
    ∃ (document node : Json), document.navigate? ("#" ++ pointer) = some node ∧
      document.navigate? ("#" ++ written pointer) ≠ some node := by
  obtain ⟨rest, hpointer⟩ : ∃ rest, pointer.toList = '/' :: rest := by
    cases hlist : pointer.toList with
    | nil => simp [hlist] at hslash
    | cons c rest => exact ⟨rest, by rw [hlist, List.head?_cons, Option.some.injEq] at hslash; rw [hslash]⟩
  have hwritten : (written pointer).toList = '/' :: Percent.encode Percent.Set.fragment (kept rest) := by
    rw [written, String.toList_ofList, hpointer, kept_cons (by decide)]
    rfl
  have hshown : ∀ c ∈ Percent.encode Percent.Set.fragment (kept rest), showsAsIs c = true :=
    fun c hc => isPlain_written pointer c (hwritten ▸ List.mem_cons_of_mem _ hc)
  have hrest : rest ≠ [] := by
    rintro rfl
    exact hplain (by rw [IsPlain, hpointer, ← List.all_eq_true]; decide)
  generalize Percent.encode Percent.Set.fragment (kept rest) = shown at hwritten hshown
  refine ⟨chain (Text.splitOn '/' rest), .null, ?_, fun hnull => hplain ?_⟩
  · rw [navigate?_slash hpointer hrest, descend?_chain]
  have hne : shown ≠ [] := by
    rintro rfl
    -- a lone slash names the whole document, which is an object
    have hlist : ("#" ++ written pointer).toList = ['#', '/'] := by simp [hwritten]
    obtain ⟨token, tokens, htokens⟩ := List.exists_cons_of_ne_nil (Text.splitWhere_ne_nil (· == '/') rest)
    rw [navigate?, hlist, Text.splitOn, htokens] at hnull
    cases hnull
  rw [navigate?_slash hwritten hne, descend?_chain] at hnull
  -- a character of the pointer is in one of its tokens, so in one of those that are shown
  have hmarks : ∀ c ∈ ['/', '~', '0', '1'], showsAsIs c = true := List.all_eq_true.mp (by decide)
  intro c hc
  rw [hpointer] at hc
  rcases List.mem_cons.mp hc with rfl | hc
  · exact hmarks _ (by decide)
  rcases Text.exists_mem_splitWhere (p := (· == '/')) hc with hslash | ⟨token, htoken, hc⟩
  · exact hmarks c (by simp [beq_iff_eq.mp hslash])
  rcases Pointer.mem_unescape_of_mem hc with hc | hc
  · have hmem : Pointer.unescape token ∈ (Text.splitOn '/' shown).map Pointer.unescape :=
      hnull ▸ List.mem_map_of_mem htoken
    obtain ⟨other, hother, hsame⟩ := List.mem_map.mp hmem
    rw [← hsame] at hc
    rcases Pointer.mem_unescape hc with hc | hc
    · have hin : c ∈ shown := (Text.mem_of_mem_splitWhere (p := (· == '/')) hother hc).1
      exact hshown c hin
    · exact hmarks c ((by decide : ['~', '/'] ⊆ ['/', '~', '0', '1']) hc)
  · exact hmarks c (List.mem_cons_of_mem _ hc)

end Json

/-! ## Resolution -/

namespace Scope

variable {library : Library} {L : Url}

theorem withoutFragment_withFragment (hfragment : L.fragment = none) (hrooted : L.isOpaque = false) (cs : List Char) :
    (L.withFragment cs).withoutFragment = L := by
  have hsame : (L.withFragment cs).isOpaque = false := hrooted
  rw [withoutFragment, hsame, Bool.false_and, if_neg Bool.false_ne_true]
  cases L
  simp_all [withFragment]

theorem isLocal_hash (hL : parse? L.text = .ok L) (hrooted : L.isOpaque = false) (pointer : String) :
    isLocal (L.text ++ "#" ++ pointer) = false := by
  obtain ⟨scheme, rest, hscheme⟩ := exists_scheme?_chars hL (parse?_isVisible hL hrooted).chars
  have htext : (L.text ++ "#" ++ pointer).toList = L.chars ++ '#' :: pointer.toList := by simp [text]
  rw [isLocal, htext]
  cases hchars : L.chars with
  | nil =>
    rw [hchars] at hscheme
    cases hscheme
  | cons c cs =>
    rw [List.cons_append, List.head?_cons, beq_eq_false_iff_ne]
    intro hc
    rw [hchars, Option.some.inj hc] at hscheme
    cases hscheme

/-- A reference to a location with a pointer behind it requests the location, and follows the pointer as it is shown. -/
theorem resolve_hash (hL : parse? L.text = .ok L) (hfragment : L.fragment = none) (hrooted : L.isOpaque = false)
    (scope : Scope) (pointer : String) :
    scope.resolve library (L.text ++ "#" ++ pointer) =
      .requesting L.text (Reference.follow library (L.text ++ "#" ++ pointer)
        { location := L.text, fragment := "#" ++ written pointer, base := some L }) := by
  have hshown : String.ofList ('#' :: (L.withFragment (kept pointer.toList)).fragment.getD []) = "#" ++ written pointer := by
    simp [withFragment, written]
  have hsplit : split scope.base (L.text ++ "#" ++ pointer) =
      .ok { location := L.text, fragment := "#" ++ written pointer, base := some L } := by
    rw [split, absolute?, read?_hash hL hfragment hrooted]
    dsimp only [bind, Except.bind]
    rw [withoutFragment_withFragment hfragment hrooted, hshown]
    rfl
  rw [resolve, isLocal_hash hL hrooted, if_neg Bool.false_ne_true, hsplit]

/-- A location that stays relative, for want of a base, is no URL, and the pointer behind it is followed as it is written. -/
theorem resolve_relative {location pointer : String} (root : Json) (hhash : '#' ∉ location.toList)
    (hne : location.toList ≠ []) (hread : read? none (location ++ "#" ++ pointer) = .error .relativeWithoutBase) :
    Scope.resolve library { root, base := none } (location ++ "#" ++ pointer) =
      .requesting location (Reference.follow library (location ++ "#" ++ pointer)
        { location, fragment := "#" ++ pointer, base := none }) := by
  have htext : (location ++ "#" ++ pointer).toList = location.toList ++ '#' :: pointer.toList := by simp
  have hall : ∀ c ∈ location.toList, (c != '#') = true := fun c hc => by
    simp only [bne_iff_ne]
    rintro rfl
    exact hhash hc
  have htake : (location ++ "#" ++ pointer).toList.takeWhile (· != '#') = location.toList := by
    rw [htext, takeWhile_append_mark (· != '#') (by decide), List.takeWhile_eq_self_iff.mpr hall]
  have hdrop : (location ++ "#" ++ pointer).toList.dropWhile (· != '#') = '#' :: pointer.toList := by
    rw [htext, dropWhile_append_mark (· != '#') (by decide), List.dropWhile_eq_nil_iff.mpr hall, List.nil_append]
  have hlocal : isLocal (location ++ "#" ++ pointer) = false := by
    obtain ⟨c, cs, hcs⟩ := List.exists_cons_of_ne_nil hne
    have hc : c ≠ '#' := by simpa using hall c (hcs ▸ List.mem_cons_self)
    rw [isLocal, htext, hcs, List.cons_append, List.head?_cons]
    simpa using hc
  have hsplit : split none (location ++ "#" ++ pointer) =
      .ok { location, fragment := "#" ++ pointer, base := none } := by
    have hfragment : String.ofList ('#' :: pointer.toList) = "#" ++ pointer := by simp
    rw [split, absolute?, hread]
    dsimp only [bind, Except.bind]
    rw [htake, hdrop, List.isEmpty_cons, if_neg Bool.false_ne_true, hfragment, String.ofList_toList]
    rfl
  rw [resolve, hlocal, if_neg Bool.false_ne_true, hsplit]

theorem resolveLocal_eq_ok_iff {scope : Scope} {uri : String} {target : Target} :
    scope.resolveLocal uri = .ok target ↔ scope.root.navigate? uri = some target.node ∧ target.scope = scope := by
  rw [resolveLocal]
  cases scope.root.navigate? uri with
  | none => simp
  | some node =>
    obtain ⟨found, scope'⟩ := target
    simp [eq_comm]

theorem follow_eq_ok_iff {r : Reference} {uri : String} {document : Json} {target : Target}
    (hdocument : library r.location = .ok document) :
    Reference.follow library uri r = .ok target ↔
      document.navigate? r.fragment = some target.node ∧ target.scope = { root := document, base := r.base } := by
  unfold Reference.follow
  rw [hdocument]
  dsimp only
  cases document.navigate? r.fragment with
  | none => simp
  | some node =>
    obtain ⟨found, scope'⟩ := target
    simp [eq_comm]

theorem resolve_hash_eq_ok_iff (hL : parse? L.text = .ok L) (hfragment : L.fragment = none) (hrooted : L.isOpaque = false)
    {document : Json} (hdocument : library L.text = .ok document) {scope : Scope} {pointer : String} {target : Target} :
    (scope.resolve library (L.text ++ "#" ++ pointer)).outcome = .ok target ↔
      document.navigate? ("#" ++ written pointer) = some target.node ∧
        target.scope = { root := document, base := some L } := by
  have hresolve : scope.resolve library (L.text ++ "#" ++ pointer) = _ := resolve_hash hL hfragment hrooted scope pointer
  rw [hresolve, Run.outcome_requesting]
  exact follow_eq_ok_iff hdocument

theorem resolve_direct_eq_ok_iff {scope : Scope} {pointer : String} {target : Target} :
    (scope.resolve library ("#" ++ pointer)).outcome = .ok target ↔
      scope.root.navigate? ("#" ++ pointer) = some target.node ∧ target.scope = scope := by
  have hlocal : isLocal ("#" ++ pointer) = true := by simp [isLocal]
  rw [resolve, if_pos hlocal]
  exact resolveLocal_eq_ok_iff

/-- **A reference to a location with a pointer behind it** requests the location, and leads to what the pointer names as a
URL shows it. It leads where the pointer does as a reference inside the document, if and only if the pointer and what is
shown of it name the same there. This is so for plain pointers, which are shown as they are; and for any other pointer it
is not so in some document. -/
theorem resolve_remote (hL : parse? L.text = .ok L) (hfragment : L.fragment = none) (hrooted : L.isOpaque = false)
    {document : Json} (hdocument : library L.text = .ok document) (scope : Scope) (pointer : String) :
    let inside : Scope := { root := document, base := some L }
    let remote := scope.resolve library (L.text ++ "#" ++ pointer)
    let direct := inside.resolve library ("#" ++ pointer)
    remote.requests = [L.text] ∧
      (∀ target, remote.outcome = .ok target ↔
        document.navigate? ("#" ++ written pointer) = some target.node ∧ target.scope = inside) ∧
      ((∀ target, remote.outcome = .ok target ↔ direct.outcome = .ok target) ↔
        document.navigate? ("#" ++ written pointer) = document.navigate? ("#" ++ pointer)) ∧
      (IsPlain pointer → ∀ target, remote.outcome = .ok target ↔ direct.outcome = .ok target) ∧
      (pointer.toList.head? = some '/' → ¬ IsPlain pointer → ∃ (other node : Json),
        other.navigate? ("#" ++ pointer) = some node ∧ other.navigate? ("#" ++ written pointer) ≠ some node) := by
  intro inside remote direct
  have hrequests : remote.requests = [L.text] := by
    show (scope.resolve library (L.text ++ "#" ++ pointer)).requests = [L.text]
    rw [resolve_hash hL hfragment hrooted]
    rfl
  have hleads (target : Target) : remote.outcome = .ok target ↔
      document.navigate? ("#" ++ written pointer) = some target.node ∧ target.scope = inside :=
    resolve_hash_eq_ok_iff hL hfragment hrooted hdocument
  have hdirect (target : Target) : direct.outcome = .ok target ↔
      document.navigate? ("#" ++ pointer) = some target.node ∧ target.scope = inside :=
    resolve_direct_eq_ok_iff
  clear_value remote direct
  have hiff : (∀ target, remote.outcome = .ok target ↔ direct.outcome = .ok target) ↔
      document.navigate? ("#" ++ written pointer) = document.navigate? ("#" ++ pointer) := by
    refine ⟨fun h => Option.ext fun node => ?_, fun h target => by rw [hleads, hdirect, h]⟩
    have htarget := h ⟨node, inside⟩
    rw [hleads, hdirect] at htarget
    simpa using htarget
  refine ⟨hrequests, hleads, hiff, fun hplain => hiff.mpr ?_, Json.exists_navigate?_ne⟩
  rw [written_eq_iff.mpr hplain]

/-- A key with a blank at a location without a base. -/
theorem resolve_remote_of_blank :
    let L : Url := { scheme := ['a', 'p', 'p'], authority := none, path := ['/', 'd'], query := none, fragment := none }
    let document : Json := .object [("a b", .object [("type", .string "string")]), ("a%20b", .null)]
    let library : Library := fun location =>
      if location = "app:/d" then .ok document else .error (.unknownLocation location)
    parse? L.text = .ok L ∧ L.fragment = none ∧ L.isOpaque = false ∧ library L.text = .ok document ∧
      ∃ target, (Scope.resolve library { root := .null, base := none } (L.text ++ "#" ++ "/a b")).outcome = .ok target ∧
        target.node = .null := by
  intro L document library
  have hL : parse? L.text = .ok L := by decide +kernel
  have hdocument : library L.text = .ok document := by
    have htext : L.text = "app:/d" := by decide
    rw [htext]
    rfl
  obtain ⟨-, hleads, -⟩ := resolve_remote hL rfl rfl hdocument { root := .null, base := none } "/a b"
  exact ⟨hL, rfl, rfl, hdocument, _, (hleads ⟨.null, ⟨document, some L⟩⟩).mpr ⟨by rfl, rfl⟩, rfl⟩

/-- **Not every pointer over the keys of a document leads to the same node behind the location of the document.** -/
theorem not_forall_resolve_remote_eq :
    ¬ ∀ (library : Library) (L : Url) (document : Json) (scope : Scope) (steps : List Pointer.Step) (node : Json),
      parse? L.text = .ok L → L.fragment = none → L.isOpaque = false → library L.text = .ok document →
      document.walk? steps = some node →
      let pointer := String.ofList (steps.flatMap fun step => '/' :: step.token)
      ((∃ target, (scope.resolve library (L.text ++ "#" ++ pointer)).outcome = .ok target ∧ target.node = node) ↔
        document.navigate? ("#" ++ pointer) = some node) := by
  intro h
  have hfails := h
    (fun location => if location = "app:/d" then .ok (.object [("a b", .object [("type", .string "string")])])
      else .error (.unknownLocation location))
    { scheme := ['a', 'p', 'p'], authority := none, path := ['/', 'd'], query := none, fragment := none }
    (.object [("a b", .object [("type", .string "string")])]) { root := .null, base := none } [.key "a b"]
    (.object [("type", .string "string")]) (by decide +kernel) rfl rfl (by rfl) (by rfl)
  obtain ⟨target, htarget, -⟩ := hfails.mpr (by rfl)
  have hnone : (_ : Bool) = true := congrArg Except.toBool htarget
  revert hnone
  decide +kernel

end Scope

end JsonSchema
