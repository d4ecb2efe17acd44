import JsonSchema.Proofs.Url.Visible
import Mathlib.Data.List.TakeWhile

/-!
# A fragment behind the text of a URL

The text of a URL that has been read, with a hash sign and more behind it, is read as this URL with a fragment, whatever
the base. The fragment is not what was written: blanks and control characters at its end and tabs and line ends anywhere
are left out, and some characters are encoded.

## What is here

* `Url.kept` — what is left of a text at the end of a URL.
* `Url.withTail_hash`, `Url.withPath_hash`, `Url.withRest_hash`, `Url.readAuthority_hash`, `Url.readOther_hash`,
  `Url.readWeb_hash`, `Url.readFile_hash` — the forms of a URL with a fragment behind them.
* `Url.read?_hash` — **the reading of the text of a URL with a fragment behind it**.
-/

set_option autoImplicit false

namespace JsonSchema

/-! ## Marks -/

section Lists

variable {α : Type} (p : α → Bool) {c : α}

/-- What is taken ends in front of a mark. -/
theorem takeWhile_append_mark (hc : p c = false) (xs ys : List α) : (xs ++ c :: ys).takeWhile p = xs.takeWhile p := by
  induction xs with
  | nil => simp [hc]
  | cons x xs ih => rw [List.cons_append, List.takeWhile_cons, List.takeWhile_cons, ih]

theorem dropWhile_append_mark (hc : p c = false) (xs ys : List α) :
    (xs ++ c :: ys).dropWhile p = xs.dropWhile p ++ c :: ys := by
  induction xs with
  | nil => simp [hc]
  | cons x xs ih =>
    rw [List.cons_append, List.dropWhile_cons, List.dropWhile_cons, ih]
    split <;> rfl

end Lists

namespace Url

variable {u : Url} {scheme cs rest : List Char}

/-! ## The text -/

/-- What is left of a text at the end of a URL: no blank or control character at its end, and no tab or line end. -/
def kept (cs : List Char) : List Char :=
  (cs.reverse.dropWhile fun c => decide (c.toNat ≤ 32)).reverse.filter fun c => c != '\t' && c != '\n' && c != '\r'

/-- A visible character is neither a tab nor a line end. -/
theorem keeps_visible {c : Char} (hc : 32 < c.toNat) : (c != '\t' && c != '\n' && c != '\r') = true := by
  have hne {d : Char} (hd : d.toNat ≤ 32) : c ≠ d := by
    rintro rfl
    exact absurd hc (Nat.not_lt.mpr hd)
  simp [hne (show '\t'.toNat ≤ 32 by decide), hne (show '\n'.toNat ≤ 32 by decide), hne (show '\r'.toNat ≤ 32 by decide)]

theorem Visible.filter (h : Visible cs) : (cs.filter fun c => c != '\t' && c != '\n' && c != '\r') = cs :=
  List.filter_eq_self.mpr fun c hc => keeps_visible (h c hc)

theorem Visible.dropWhile (h : Visible cs) : (cs.dropWhile fun c => decide (c.toNat ≤ 32)) = cs := by
  cases cs with
  | nil => rfl
  | cons c cs => exact List.dropWhile_cons_of_neg (by simpa using (visible_cons.mp h).1)

theorem kept_of_visible (h : Visible cs) : kept cs = cs := by
  rw [kept, (visible_reverse.mpr h).dropWhile, List.reverse_reverse, h.filter]

theorem kept_cons {c : Char} (hc : 32 < c.toNat) (cs : List Char) : kept (c :: cs) = c :: kept cs := by
  rw [kept, List.reverse_cons, dropWhile_append_mark _ (by simpa using hc), List.reverse_append, List.reverse_singleton,
    List.singleton_append, List.filter_cons, if_pos (keeps_visible hc), kept]

/-- A visible text is read as it stands, and so is the hash sign behind it. -/
theorem cleaned_hash (h : Visible cs) (hne : cs ≠ []) (ds : List Char) :
    cleaned (cs ++ '#' :: ds) = cs ++ '#' :: kept ds := by
  have hfront : ((cs ++ '#' :: ds).dropWhile fun c => decide (c.toNat ≤ 32)) = cs ++ '#' :: ds := by
    obtain ⟨c, cs, rfl⟩ := List.exists_cons_of_ne_nil hne
    exact List.dropWhile_cons_of_neg (by simpa using (visible_cons.mp h).1)
  have hback : (cs ++ '#' :: ds).reverse = ds.reverse ++ '#' :: cs.reverse := by simp
  unfold cleaned
  dsimp only
  rw [hfront, hback, dropWhile_append_mark _ (by decide), List.reverse_append, List.reverse_cons, List.reverse_reverse,
    List.append_assoc, List.singleton_append, List.filter_append, List.filter_cons_of_pos (by decide), h.filter, kept]

theorem cleaned_of_visible (h : Visible cs) : cleaned cs = cs := by
  unfold cleaned
  dsimp only
  rw [h.dropWhile, (visible_reverse.mpr h).dropWhile, List.reverse_reverse, h.filter]

/-! ## Query and path -/

/-- What follows a path starts with the mark of the query, if it does not with that of the fragment. -/
theorem tail_dropWhile (h : '#' ∉ rest) :
    rest.dropWhile (!endsPath ·) = [] ∨ ∃ query, rest.dropWhile (!endsPath ·) = '?' :: query := by
  cases htail : rest.dropWhile (!endsPath ·) with
  | nil => exact .inl rfl
  | cons c query =>
    have hends := List.head?_dropWhile_not (!endsPath ·) rest
    rw [htail] at hends
    have hc : c ≠ '#' := by
      rintro rfl
      exact h ((List.dropWhile_sublist _).subset (htail ▸ List.mem_cons_self))
    simp only [List.head?_cons, endsPath, Bool.not_eq_false', Bool.or_eq_true, beq_iff_eq] at hends
    exact .inr ⟨query, by rw [hends.resolve_right hc]⟩

theorem withTail_hash (h : '#' ∉ rest) (htail : rest = [] ∨ ∃ query, rest = '?' :: query) (f : List Char) :
    u.withTail (rest ++ '#' :: f) = (u.withTail rest).withFragment f := by
  rcases htail with rfl | ⟨query, rfl⟩
  · rfl
  · have hquery : query.takeWhile (· != '#') = query ∧ query.dropWhile (· != '#') = [] := by
      have hall : ∀ c ∈ query, (c != '#') = true := fun c hc => by
        simp only [bne_iff_ne]
        rintro rfl
        exact h (List.mem_cons_of_mem _ hc)
      exact ⟨List.takeWhile_eq_self_iff.mpr hall, List.dropWhile_eq_nil_iff.mpr hall⟩
    simp only [withTail, withFragment, List.cons_append, takeWhile_append_mark (· != '#') (c := '#') (by decide),
      dropWhile_append_mark (· != '#') (c := '#') (by decide), hquery.1, hquery.2, List.nil_append]

theorem withPath_hash (h : '#' ∉ rest) (start f : List Char) :
    u.withPath start (rest ++ '#' :: f) = (u.withPath start rest).withFragment f := by
  have hrest : '#' ∉ rest.dropWhile (!endsPath ·) := fun hmem => h ((List.dropWhile_sublist _).subset hmem)
  rw [withPath, withPath, takeWhile_append_mark (!endsPath ·) (by decide), dropWhile_append_mark (!endsPath ·) (by decide),
    withTail_hash hrest (tail_dropWhile h)]

theorem withRest_hash (h : '#' ∉ rest) (hquery : u.query = none) (f : List Char) :
    u.withRest (rest ++ '#' :: f) = (u.withRest rest).withFragment f := by
  have hhash : isSlash (SchemeKind.of u.scheme) '#' = false := by simp [isSlash]
  cases rest with
  | nil =>
    unfold withRest
    dsimp only [List.nil_append]
    rw [hhash, if_neg Bool.false_ne_true]
    by_cases hspecial : (SchemeKind.of u.scheme).isSpecial = true
    · rw [hspecial, if_neg (by decide), if_pos rfl]
      exact withPath_hash h ['/'] f
    · rw [Bool.not_eq_true] at hspecial
      rw [hspecial, if_pos (by decide), if_neg Bool.false_ne_true]
      simp [withTail, withFragment, hquery]
  | cons c cs =>
    have hcs : '#' ∉ cs := List.not_mem_of_not_mem_cons h
    unfold withRest
    dsimp only [List.cons_append]
    split
    · exact withPath_hash hcs ['/'] f
    split
    · rename_i hends
      have hc : c = '?' := by
        simp only [Bool.and_eq_true, endsPath, Bool.or_eq_true, beq_iff_eq] at hends
        exact hends.2.resolve_right (List.ne_of_not_mem_cons h).symm
      exact withTail_hash h (.inr ⟨cs, by rw [hc]⟩) f
    · exact withPath_hash h ['/'] f

/-! ## Authorities -/

/-- Whether something follows matters only for an authority that is nothing but the sign behind a user. -/
theorem authority?_more (h : cs ≠ ['@']) (more more' : Bool) : authority? scheme cs more = authority? scheme cs more' := by
  have hnot : ((splitUser cs).1 == some [] && (splitUser cs).2.isEmpty) = false := by
    rw [Bool.eq_false_iff, Ne, Bool.and_eq_true, beq_iff_eq, List.isEmpty_iff]
    rintro ⟨huser, hhost⟩
    unfold splitUser at huser hhost
    split at huser
    · rename_i hat
      rw [if_pos hat] at hhost
      have htake : cs.reverse.takeWhile (· != '@') = [] := List.reverse_eq_nil_iff.mp hhost
      have hdrop : (cs.reverse.dropWhile (· != '@')).drop 1 = [] := List.reverse_eq_nil_iff.mp (Option.some.inj huser)
      have hsplit : cs.reverse.dropWhile (· != '@') = cs.reverse := by
        simpa [htake] using List.takeWhile_append_dropWhile (p := (· != '@')) (l := cs.reverse)
      rw [hsplit] at hdrop
      have hlength : cs.length ≤ 1 := by simpa using List.drop_eq_nil_iff.mp hdrop
      rw [List.contains_iff_mem] at hat
      match cs, hat, hlength with
      | [c], hat, _ => exact h (by rw [List.mem_singleton.mp hat])
    · exact nomatch huser
  unfold authority?
  dsimp only
  rw [hnot, Bool.false_and, Bool.false_and]

theorem hostEnd_subset (inBrackets : Bool) (cs : List Char) : (hostEnd inBrackets cs).2 ⊆ cs := by
  induction cs generalizing inBrackets with
  | nil => exact List.Subset.refl _
  | cons c cs ih =>
    unfold hostEnd
    split
    · exact List.Subset.refl _
    · exact fun _ hd => List.mem_cons_of_mem _ (ih _ hd)

theorem splitUser_subset (cs : List Char) : (splitUser cs).2 ⊆ cs := by
  unfold splitUser
  split
  · exact fun c hc => List.mem_reverse.mp ((List.takeWhile_sublist _).subset (List.mem_reverse.mp hc))
  · exact List.Subset.refl _

/-- What follows a port has been written. -/
theorem authority?_subset {more : Bool} {read : List Char × List Char} (h : authority? scheme cs more = .ok read) :
    read.2 ⊆ cs := by
  obtain ⟨named, hnamed, rfl⟩ := authority?_cases h
  obtain ⟨host, -, hport⟩ := hostAndPort_cases hnamed
  exact fun c hc => splitUser_subset cs (hostEnd_subset _ _ ((withPort_cases hport).2 hc))

/-- A character behind which no authority goes on. -/
def endsAuthority (k : SchemeKind) (c : Char) : Bool := isSlash k c || endsPath c

theorem readAuthority_eq (scheme cs : List Char) :
    readAuthority scheme cs =
      authority? scheme (cs.takeWhile (!endsAuthority (SchemeKind.of scheme) ·))
          (!(cs.dropWhile (!endsAuthority (SchemeKind.of scheme) ·)).isEmpty) >>= fun read =>
        .ok ((⟨scheme, some read.1, [], none, none⟩ : Url).withRest
          (read.2 ++ cs.dropWhile (!endsAuthority (SchemeKind.of scheme) ·))) := rfl

theorem readAuthority_hash (h : '#' ∉ cs) (hnot : cs.takeWhile (!endsAuthority (SchemeKind.of scheme) ·) ≠ ['@'])
    (hu : readAuthority scheme cs = .ok u) (f : List Char) :
    readAuthority scheme (cs ++ '#' :: f) = .ok (u.withFragment f) := by
  have hmark : (!endsAuthority (SchemeKind.of scheme) '#') = false := by simp [endsAuthority, endsPath]
  rw [readAuthority_eq] at hu ⊢
  obtain ⟨read, hread, hu⟩ := except_bind_eq_ok.mp hu
  cases hu
  rw [takeWhile_append_mark (!endsAuthority (SchemeKind.of scheme) ·) hmark,
    dropWhile_append_mark (!endsAuthority (SchemeKind.of scheme) ·) hmark, authority?_more hnot _ _, hread]
  have hodd : '#' ∉ read.2 ++ cs.dropWhile (!endsAuthority (SchemeKind.of scheme) ·) := by
    rw [List.mem_append, not_or]
    exact ⟨fun hmem => h ((List.takeWhile_sublist _).subset (authority?_subset hread hmem)),
      fun hmem => h ((List.dropWhile_sublist _).subset hmem)⟩
  refine congrArg Except.ok ?_
  rw [← List.append_assoc]
  exact withRest_hash hodd rfl f

/-! ## The forms behind a scheme -/

theorem readOther_hash (h : '#' ∉ cs)
    (hnot : ∀ rest, cs = '/' :: '/' :: rest → rest.takeWhile (!endsAuthority (SchemeKind.of scheme) ·) ≠ ['@'])
    (hu : readOther scheme cs = .ok u) (f : List Char) : readOther scheme (cs ++ '#' :: f) = .ok (u.withFragment f) := by
  unfold readOther at hu
  split at hu
  · rename_i rest
    exact readAuthority_hash (fun hmem => h (by simp [hmem])) (hnot rest rfl) hu f
  · rename_i rest hslash
    cases hu
    have hrest : '#' ∉ rest := fun hmem => h (List.mem_cons_of_mem _ hmem)
    unfold readOther
    split
    · rename_i more heq
      cases rest with
      | nil => cases heq
      | cons c rest =>
        rw [List.cons_append, List.cons_append] at heq
        exact (hslash rest (by rw [(List.cons.inj (List.cons.inj heq).2).1])).elim
    · rename_i heq
      rw [← (List.cons.inj heq).2]
      exact congrArg Except.ok (withPath_hash hrest ['/'] f)
    · rename_i hother
      exact (hother _ rfl).elim
  · rename_i hdouble hslash
    cases hu
    have hrest : '#' ∉ cs.dropWhile (!endsPath ·) := fun hmem => h ((List.dropWhile_sublist _).subset hmem)
    have hfirst {more : List Char} (heq : cs ++ '#' :: f = '/' :: more) : False := by
      cases cs with
      | nil => cases heq
      | cons c cs => exact hslash cs (by rw [(List.cons.inj heq).1])
    unfold readOther
    split
    · rename_i heq
      exact (hfirst heq).elim
    · rename_i heq
      exact (hfirst heq).elim
    · rw [takeWhile_append_mark (!endsPath ·) (by decide), dropWhile_append_mark (!endsPath ·) (by decide)]
      exact congrArg Except.ok (withTail_hash hrest (tail_dropWhile h) f)

/-- Behind two slashes the base has no influence. -/
theorem readFile_hash {b : Option Url} (h : '#' ∉ cs) (hu : readFile none ('/' :: '/' :: cs) = .ok u) (f : List Char) :
    readFile b ('/' :: '/' :: cs ++ '#' :: f) = .ok (u.withFragment f) := by
  have hmark : (!(isSlash .file '#' || endsPath '#')) = false := by decide
  unfold readFile at hu ⊢
  dsimp only [List.cons_append] at hu ⊢
  rw [if_pos (by decide), if_pos (by decide)] at hu ⊢
  rw [takeWhile_append_mark (fun c => !(isSlash .file c || endsPath c)) hmark,
    dropWhile_append_mark (fun c => !(isSlash .file c || endsPath c)) hmark]
  have hbehind : '#' ∉ cs.dropWhile fun c => !(isSlash .file c || endsPath c) :=
    fun hmem => h ((List.dropWhile_sublist _).subset hmem)
  generalize (cs.dropWhile fun c => !(isSlash .file c || endsPath c)) = behind at hu hbehind ⊢
  split at hu
  · rename_i hdrive
    cases hu
    rw [if_pos hdrive]
    exact congrArg Except.ok (withPath_hash h ['/'] f)
  rename_i hdrive
  rw [if_neg hdrive]
  split at hu
  · rename_i hempty
    cases hu
    rw [if_pos hempty]
    exact congrArg Except.ok (withPath_hash hbehind ['/'] f)
  · rename_i hempty
    obtain ⟨host, hhost, hu⟩ := except_bind_eq_ok.mp hu
    cases hu
    rw [if_neg hempty, hhost, takeWhile_append_mark (!endsPath ·) (by decide)]
    refine congrArg Except.ok ?_
    -- the slash in front of the path is not read twice
    have hrest (slash : Bool) (hslash : slash = true → behind ≠ []) :
        (if slash then (behind ++ '#' :: f).drop 1 else behind ++ '#' :: f) =
            (if slash then behind.drop 1 else behind) ++ '#' :: f ∧
          '#' ∉ if slash then behind.drop 1 else behind := by
      cases slash with
      | false => exact ⟨rfl, hbehind⟩
      | true =>
        obtain ⟨c, more, rfl⟩ := List.exists_cons_of_ne_nil (hslash rfl)
        exact ⟨rfl, List.not_mem_of_not_mem_cons hbehind⟩
    have hslash : ((behind.takeWhile (!endsPath ·)).head?.map (isSlash .file)).getD false = true → behind ≠ [] := by
      rintro hslash rfl
      exact nomatch hslash
    rw [(hrest _ hslash).1]
    exact withPath_hash (hrest _ hslash).2 ['/'] f

/-! ## The parts that stay -/

theorem authority_withPath (u : Url) (start rest : List Char) : (u.withPath start rest).authority = u.authority :=
  authority_withTail _ _

theorem authority_withRest (u : Url) (rest : List Char) : (u.withRest rest).authority = u.authority := by
  unfold withRest
  dsimp only
  split
  · split
    · exact authority_withPath u _ _
    · rfl
  · split
    · exact authority_withPath u _ _
    · split
      · exact authority_withTail u _
      · exact authority_withPath u _ _

theorem exists_authority_of_readAuthority (h : readAuthority scheme cs = .ok u) : ∃ a, u.authority = some a := by
  rw [readAuthority_eq] at h
  obtain ⟨read, -, h⟩ := except_bind_eq_ok.mp h
  cases h
  exact ⟨read.1, authority_withRest _ _⟩

theorem exists_authority_of_readFile (h : readFile none cs = .ok u) : ∃ a, u.authority = some a := by
  obtain ⟨host, rest, rfl, -⟩ := exists_host_of_readFile h
  exact ⟨host, authority_withPath _ _ _⟩

/-- The sign behind a user alone is read as the empty authority, and on the web not at all. -/
theorem readAuthority_at (h : readAuthority scheme cs = .ok u) (hkind : SchemeKind.of scheme ≠ .file)
    (hat : cs.takeWhile (!endsAuthority (SchemeKind.of scheme) ·) = ['@']) :
    SchemeKind.of scheme = .other ∧ u.authority = some [] := by
  rw [readAuthority_eq, hat] at h
  obtain ⟨read, hread, h⟩ := except_bind_eq_ok.mp h
  cases h
  rw [authority_withRest]
  unfold authority? at hread
  dsimp only at hread
  split at hread
  · exact nomatch hread
  · cases hk : SchemeKind.of scheme with
    | file => exact absurd hk hkind
    | web =>
      rw [hk] at hread
      exact nomatch hread
    | other =>
      rw [hk] at hread
      cases hread
      exact ⟨rfl, rfl⟩

/-! ## The reading -/

theorem scheme?_spec (h : scheme? cs = some (scheme, rest)) : ∃ name, cs = name ++ ':' :: rest ∧ ':' ∉ name := by
  unfold scheme? at h
  dsimp only at h
  split at h
  · rename_i c name behind hname hbehind
    split at h
    · cases h
      have hsplit := List.takeWhile_append_dropWhile (p := fun c => c.isAlphanum || c == '+' || c == '-' || c == '.') (l := cs)
      rw [hbehind] at hsplit
      refine ⟨_, hsplit.symm, fun hmem => ?_⟩
      have hcolon := List.all_eq_true.mp List.all_takeWhile ':' hmem
      exact absurd hcolon (by decide)
    · cases h
  · cases h

theorem scheme?_hash (h : scheme? cs = some (scheme, rest)) (f : List Char) :
    scheme? (cs ++ '#' :: f) = some (scheme, rest ++ '#' :: f) := by
  unfold scheme? at h ⊢
  dsimp only at h ⊢
  rw [takeWhile_append_mark (fun c => c.isAlphanum || c == '+' || c == '-' || c == '.') (by decide),
    dropWhile_append_mark (fun c => c.isAlphanum || c == '+' || c == '-' || c == '.') (by decide)]
  split at h
  · rename_i hname hbehind
    split at h
    · rename_i halpha
      cases h
      rw [hname, hbehind]
      exact if_pos halpha
    · cases h
  · cases h

/-- Behind an authority there is no sign behind a user. -/
theorem IsNormal.head?_ne_at {L : Url} (hL : L.IsNormal) {a : List Char} (ha : L.authority = some a) :
    (L.path ++ marked '?' L.query).head? ≠ some '@' := by
  rcases hL.rooted (by simp [ha]) with hpath | hpath
  · rw [hpath]
    cases L.query <;> simp [marked]
  · rw [List.head?_append, hpath]
    simp

/-- The text of a URL starts with its scheme. -/
theorem exists_scheme?_chars {L : Url} (hL : parse? L.text = .ok L) (hvisible : Visible L.chars) :
    ∃ scheme rest, scheme? L.chars = some (scheme, rest) := by
  unfold parse? read? at hL
  rw [text, String.toList_ofList, cleaned_of_visible hvisible] at hL
  dsimp only at hL
  cases hscheme : scheme? L.chars with
  | none =>
    rw [hscheme] at hL
    exact nomatch hL
  | some parts => exact ⟨parts.1, parts.2, rfl⟩

/-- What stands behind the scheme of a normal URL without a fragment. -/
theorem IsNormal.behind_scheme {L : Url} (hL : L.IsNormal) (hfragment : L.fragment = none)
    (h : scheme? L.chars = some (scheme, rest)) : rest = hierarchy L.authority L.path ++ marked '?' L.query ∧ '#' ∉ rest := by
  obtain ⟨name, hname, hcolon⟩ := scheme?_spec h
  rw [chars_eq] at hname
  obtain ⟨-, rfl⟩ := append_cons_inj (fun hmem => hL.scheme hmem (by decide)) hcolon hname
  rw [hfragment, marked, List.append_nil]
  exact ⟨rfl, hL.hash_notMem⟩

/-- What is read behind a scheme of the web if it is not relative. -/
theorem readWeb_hash (h : '#' ∉ cs) (hkind : SchemeKind.of scheme = .web)
    (hu : readAuthority scheme (cs.dropWhile fun c => c == '/' || c == '\\') = .ok u) (f : List Char) :
    readAuthority scheme ((cs ++ '#' :: f).dropWhile fun c => c == '/' || c == '\\') = .ok (u.withFragment f) := by
  rw [dropWhile_append_mark (fun c => c == '/' || c == '\\') (by decide)]
  refine readAuthority_hash (fun hmem => h ((List.dropWhile_sublist _).subset hmem)) (fun hat => ?_) hu f
  have hother := (readAuthority_at hu (by simp [hkind]) hat).1
  rw [hkind] at hother
  cases hother

/-- A normal URL is not written in a form in which a sign behind a user stands for the empty authority. -/
theorem IsNormal.takeWhile_ne_at {L : Url} (hL : L.IsNormal) (hkind : SchemeKind.of scheme = .other)
    (hslashes : ∀ a, L.authority = some a → rest = '/' :: '/' :: (a ++ L.path ++ marked '?' L.query))
    (hread : readOther scheme rest = .ok L) {authority : List Char} (heq : rest = '/' :: '/' :: authority) :
    authority.takeWhile (!endsAuthority (SchemeKind.of scheme) ·) ≠ ['@'] := by
  intro hat
  rw [heq] at hread
  have ha := (readAuthority_at hread (by simp [hkind]) hat).2
  have hfront := (List.cons.inj (List.cons.inj (heq.symm.trans (hslashes [] ha))).2).2
  obtain ⟨more, hmore⟩ := List.takeWhile_prefix (l := authority) (!endsAuthority (SchemeKind.of scheme) ·)
  refine hL.head?_ne_at ha ?_
  rw [← List.nil_append L.path, ← hfront, ← hmore, hat]
  rfl

/-- The text of a URL with a hash sign and more behind it is read as this URL with a fragment, whatever the base. -/
theorem read?_hash {L : Url} (hL : parse? L.text = .ok L) (hfragment : L.fragment = none) (hrooted : L.isOpaque = false)
    (base : Option Url) (pointer : String) :
    read? base (L.text ++ "#" ++ pointer) = .ok (L.withFragment (kept pointer.toList)) := by
  have hnormal : L.IsNormal := read?_isNormal (by simp) hL
  have hvisible : Visible L.chars := (parse?_isVisible hL hrooted).chars
  have hchars : (L.text ++ "#" ++ pointer).toList = L.chars ++ '#' :: pointer.toList := by simp [text]
  have htext : L.text.toList = L.chars := String.toList_ofList
  have hne : L.chars ≠ [] := by simp [chars_eq]
  obtain ⟨scheme, rest, hscheme⟩ := exists_scheme?_chars hL hvisible
  obtain ⟨hparts, hhash⟩ := hnormal.behind_scheme hfragment hscheme
  have hslashes (a : List Char) (ha : L.authority = some a) :
      rest = '/' :: '/' :: (a ++ L.path ++ marked '?' L.query) := by
    rw [hparts, ha]
    simp [hierarchy]
  unfold parse? read? at hL
  unfold read?
  rw [htext, cleaned_of_visible hvisible] at hL
  rw [hchars, cleaned_hash hvisible hne]
  dsimp only at hL ⊢
  rw [hscheme] at hL
  rw [scheme?_hash hscheme]
  dsimp only [Option.filter_none] at hL ⊢
  cases hkind : SchemeKind.of scheme with
  | file =>
    rw [hkind] at hL
    dsimp only at hL ⊢
    obtain ⟨a, ha⟩ := exists_authority_of_readFile hL
    rw [hslashes a ha] at hL hhash ⊢
    exact readFile_hash (fun hmem => hhash (List.mem_cons_of_mem _ (List.mem_cons_of_mem _ hmem))) hL _
  | web =>
    rw [hkind] at hL
    dsimp only at hL ⊢
    have hread := readWeb_hash hhash hkind hL (kept pointer.toList)
    cases base with
    | none => exact hread
    | some b =>
      -- with two slashes in front it is not relative
      obtain ⟨a, ha⟩ := exists_authority_of_readAuthority hL
      have htwo : ¬ ((rest ++ '#' :: kept pointer.toList).takeWhile fun c => c == '/' || c == '\\').length < 2 := by
        simp [hslashes a ha]
      dsimp only
      rw [if_neg fun h => htwo (of_decide_eq_true (Bool.and_eq_true_iff.mp h).1), hread]
  | other =>
    rw [hkind] at hL
    dsimp only at hL ⊢
    exact readOther_hash hhash (fun authority heq => hnormal.takeWhile_ne_at hkind hslashes hL heq) hL _

end Url

end JsonSchema
