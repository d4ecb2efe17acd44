import JsonSchema.Proofs.Text
import JsonSchema.Proofs.Url.Normal
import JsonSchema.Url.FilePath

/-!
# Reading gives normal URLs

Whatever is read as a URL, on its own or relative to a normal one, is normal: the marks that would end a part are
encoded where the part is read, or the part ends there.

## What is here

* `Percent.encode_disjoint` — encoding brings no mark in, and takes those of its set out.
* `Url.withPort_cases`, `Url.hostAndPort_cases`, `Url.authority?_cases` — what an authority that has been read consists of.
* `Host.read?_disjoint`, `hostAndPort_disjoint` — no host contains a mark.
* `Path.Grown` — what is true of a path under construction, and `Path.append_grown`, **one segment more**.
* `Url.IsNormal.withTail`, `Url.IsNormal.withPath` — the parts that are read last.
* `Url.read?_isNormal` — **the reading**.
-/

set_option autoImplicit false

namespace JsonSchema

/-- The marks that end a part of a URL, and the zero character. -/
def urlMarks : List Char := [':', '/', '?', '#', '\x00']

theorem disjoint_of_mem_left {α : Type} {l k m : List α} (h : ∀ a ∈ l, a ∈ k) (hk : k.Disjoint m) : l.Disjoint m :=
  fun _ hl hm => hk (h _ hl) hm

theorem except_bind_eq_ok {ε α β : Type} {x : Except ε α} {f : α → Except ε β} {b : β} :
    x >>= f = .ok b ↔ ∃ a, x = .ok a ∧ f a = .ok b := by
  cases x with
  | error e => exact ⟨fun h => (nomatch h), fun ⟨_, h, _⟩ => (nomatch h)⟩
  | ok a => exact ⟨fun h => ⟨a, rfl, h⟩, fun ⟨_, ha, h⟩ => Except.ok.inj ha ▸ h⟩

/-! ## Digits -/

/-- Digits are digits: what is written for a number consists of them. -/
theorem exists_digitChar_of_mem_toDigits {b n : Nat} {c : Char} (h : c ∈ Nat.toDigits b n) :
    ∃ m, c = Nat.digitChar m := by
  have hcore (fuel : Nat) : ∀ (n : Nat) (ds : List Char), (∀ d ∈ ds, ∃ m, d = Nat.digitChar m) →
      ∀ d ∈ Nat.toDigitsCore b fuel n ds, ∃ m, d = Nat.digitChar m := by
    induction fuel with
    | zero => exact fun _ _ hds => hds
    | succ fuel ih =>
      intro n ds hds
      have hcons : ∀ d ∈ Nat.digitChar (n % b) :: ds, ∃ m, d = Nat.digitChar m := by
        intro d hd
        rcases List.mem_cons.mp hd with rfl | hd
        · exact ⟨_, rfl⟩
        · exact hds d hd
      unfold Nat.toDigitsCore
      dsimp only
      split
      · exact hcons
      · exact ih _ _ hcons
  exact hcore _ n [] (by simp) c h

theorem digitChar_notMem_urlMarks (n : Nat) : Nat.digitChar n ∉ urlMarks := by
  by_cases hn : n < 16
  · revert n
    decide
  · have hstar : Nat.digitChar n = '*' := by
      unfold Nat.digitChar
      repeat' rw [if_neg (by omega)]
    rw [hstar]
    decide

theorem toDigits_disjoint (b n : Nat) : (Nat.toDigits b n).Disjoint urlMarks := by
  intro c hc hmark
  obtain ⟨m, rfl⟩ := exists_digitChar_of_mem_toDigits hc
  exact digitChar_notMem_urlMarks m hmark

/-! ## Percent encoding -/

namespace Percent

/-- The characters with which encoded bytes are written. -/
def byteChars : List Char :=
  ['%', '0', '1', '2', '3', '4', '5', '6', '7', '8', '9', 'A', 'B', 'C', 'D', 'E', 'F']

/-- What an encoded text consists of: characters that were not to be encoded, and encoded bytes. -/
theorem mem_or_of_mem_encode {s : Set} {cs : List Char} {c : Char} (h : c ∈ encode s cs) :
    (c ∈ cs ∧ c.toNat ≤ 127 ∧ s c = false) ∨ c ∈ byteChars := by
  have hbyte (b : UInt8) : ∀ d ∈ byte b, d ∈ byteChars := by
    have hdigit : ∀ n < 16, (Nat.digitChar n).toUpper ∈ byteChars := by decide
    have hsize : b.toNat < 256 := b.toNat_lt
    intro d hd
    simp only [byte, List.mem_cons, List.not_mem_nil, or_false] at hd
    rcases hd with rfl | rfl | rfl
    · decide
    · exact hdigit _ (by omega)
    · exact hdigit _ (by omega)
  unfold encode at h
  obtain ⟨d, hd, hc⟩ := List.mem_flatMap.mp h
  split at hc
  · obtain ⟨b, -, hb⟩ := List.mem_flatMap.mp hc
    exact Or.inr (hbyte b c hb)
  · rename_i hplain
    simp only [gt_iff_lt, Bool.or_eq_true, decide_eq_true_eq, not_or, Bool.not_eq_true, Nat.not_lt] at hplain
    rw [List.mem_singleton.mp hc]
    exact Or.inl ⟨hd, hplain⟩

/-- Encoding brings no mark in, and takes those of its set out. -/
theorem encode_disjoint {s : Set} {cs marks : List Char} (hmarks : marks ⊆ urlMarks)
    (h : ∀ m ∈ marks, s m = true ∨ m ∉ cs) : (encode s cs).Disjoint marks := by
  have hbytes : byteChars.all (· ∉ urlMarks) = true := by decide
  intro c hc hmark
  rcases mem_or_of_mem_encode hc with ⟨hmem, -, hplain⟩ | hbyte
  · rcases h c hmark with hset | hnot
    · rw [hplain] at hset
      exact absurd hset (by decide)
    · exact hnot hmem
  · exact absurd (hmarks hmark) (of_decide_eq_true (List.all_eq_true.mp hbytes c hbyte))

/-- Only a character itself is encoded as something that starts with a mark. -/
theorem head?_encode {s : Set} {cs : List Char} {c : Char} (hc : c ∈ urlMarks) (h : (encode s cs).head? = some c) :
    cs.head? = some c := by
  cases cs with
  | nil => exact h
  | cons d cs =>
    unfold encode at h
    rw [List.flatMap_cons] at h
    split at h
    · have hne : String.utf8EncodeChar d ≠ [] := String.utf8EncodeChar_ne_nil
      obtain ⟨b, bs, hbytes⟩ := List.exists_cons_of_ne_nil hne
      rw [hbytes] at h
      have hpercent : c = '%' := by simpa [byte] using h.symm
      rw [hpercent] at hc
      exact absurd hc (by decide)
    · exact h

/-- A part whose set has all the marks. -/
theorem encode_disjoint_of_set {s : Set} {marks : List Char} (cs : List Char) (hmarks : marks ⊆ urlMarks)
    (h : ∀ m ∈ marks, s m = true) : (encode s cs).Disjoint marks :=
  encode_disjoint hmarks fun m hm => Or.inl (h m hm)

end Percent

/-! ## Hosts -/

/-- The marks that no authority contains. -/
def authorityMarks : List Char := ['/', '?', '#', '\x00']

theorem authorityMarks_subset : authorityMarks ⊆ urlMarks := by
  unfold authorityMarks urlMarks
  simp

namespace Ipv4

theorem text_disjoint (address : Nat) : (text address).Disjoint authorityMarks := by
  intro c hc hmark
  rcases Text.mem_joinWith hc with rfl | ⟨piece, hpiece, hmem⟩
  · exact absurd hmark (by decide)
  · obtain ⟨n, -, rfl⟩ := List.mem_map.mp hpiece
    exact toDigits_disjoint 10 n hmem (authorityMarks_subset hmark)

end Ipv4

namespace Ipv6

theorem text_disjoint (groups : List Nat) : (text groups).Disjoint authorityMarks := by
  have hwritten (gs : List Nat) : (Text.joinWith ':' (gs.map fun g => Nat.toDigits 16 g)).Disjoint authorityMarks := by
    intro c hc hmark
    rcases Text.mem_joinWith hc with rfl | ⟨piece, hpiece, hmem⟩
    · exact absurd hmark (by decide)
    · obtain ⟨n, -, rfl⟩ := List.mem_map.mp hpiece
      exact toDigits_disjoint 16 n hmem (authorityMarks_subset hmark)
  unfold text
  dsimp only
  split
  · exact hwritten groups
  · have hgap : [':', ':'].Disjoint authorityMarks := by simp [authorityMarks]
    exact List.disjoint_append_left.mpr ⟨List.disjoint_append_left.mpr ⟨hwritten _, hgap⟩, hwritten _⟩

end Ipv6

namespace Host

theorem bracketed?_disjoint {cs host : List Char} (h : bracketed? cs = .ok host) : host.Disjoint authorityMarks := by
  unfold bracketed? at h
  split at h
  · split at h
    · rename_i groups _
      cases h
      have hopen : '[' ∉ authorityMarks := by decide
      have hclose : [']'].Disjoint authorityMarks := by simp [authorityMarks]
      exact List.disjoint_cons_left.mpr
        ⟨hopen, List.disjoint_append_left.mpr ⟨Ipv6.text_disjoint groups, hclose⟩⟩
    · exact nomatch h
  · exact nomatch h

theorem read?_disjoint {cs host : List Char} (h : read? cs = .ok host) : host.Disjoint authorityMarks := by
  unfold read? at h
  split at h
  · exact bracketed?_disjoint h
  · split at h
    · exact nomatch h
    · rename_i name _
      split at h
      · exact nomatch h
      rename_i hclean
      split at h
      · exact nomatch h
      split at h
      · split at h
        · cases h
          exact Ipv4.text_disjoint _
        · exact nomatch h
      · cases h
        intro c hc hmark
        apply hclean
        refine List.any_eq_true.mpr ⟨c, hc, ?_⟩
        revert hmark
        simp only [authorityMarks, List.mem_cons, List.not_mem_nil, or_false]
        rintro (rfl | rfl | rfl | rfl) <;> decide

theorem readOpaque?_disjoint {cs host : List Char} (h : readOpaque? cs = .ok host) :
    host.Disjoint authorityMarks := by
  unfold readOpaque? at h
  split at h
  · exact bracketed?_disjoint h
  split at h
  · exact nomatch h
  · rename_i hclean
    cases h
    refine Percent.encode_disjoint authorityMarks_subset fun m hm => Or.inr fun hmem => hclean ?_
    refine List.any_eq_true.mpr ⟨m, hmem, ?_⟩
    revert hm
    simp only [authorityMarks, List.mem_cons, List.not_mem_nil, or_false]
    rintro (rfl | rfl | rfl | rfl) <;> decide

end Host

namespace Url

/-! ## Paths -/

namespace Path

/-- The marks that no path contains. -/
def pathMarks : List Char := ['?', '#', '\x00']

/-- What is true of a path under construction, which is kept in reverse. The path of a file is put in order at the
end. -/
structure Grown (k : SchemeKind) (reversed : List Char) : Prop where
  clean : reversed.Disjoint pathMarks
  rooted : k ≠ .file → reversed.getLast? = some '/'
  undotted : k ≠ .file → ¬ ['/', '.', '/'] <:+ reversed

/-- Whether a segment can be appended to a path. -/
def Ready (k : SchemeKind) (reversed : List Char) : Prop := k ≠ .file → reversed.head? = some '/'

variable {k : SchemeKind} {reversed segment : List Char}

theorem Grown.root (k : SchemeKind) : Grown k ['/'] where
  clean := by simp [pathMarks]
  rooted := fun _ => rfl
  undotted := fun _ => by decide

theorem Grown.file (h : reversed.Disjoint pathMarks) : Grown .file reversed where
  clean := h
  rooted := fun hk => absurd rfl hk
  undotted := fun hk => absurd rfl hk

theorem Grown.of_suffix {s : List Char} (h : Grown k reversed) (hs : s <:+ reversed)
    (hne : k ≠ .file → s ≠ []) : Grown k s where
  clean := disjoint_of_mem_left (fun _ hc => hs.subset hc) h.clean
  rooted := by
    intro hk
    have hlast := h.rooted hk
    obtain ⟨t, rfl⟩ := hs
    rwa [List.getLast?_append_of_ne_nil _ (hne hk)] at hlast
  undotted := fun hk hdot => h.undotted hk (hdot.trans hs)

theorem shorten_suffix (k : SchemeKind) (reversed : List Char) : shorten k reversed <:+ reversed := by
  unfold shorten
  dsimp only
  split
  · exact List.suffix_rfl
  · exact List.dropWhile_suffix _

/-- A path that starts with a slash keeps one. -/
theorem head?_shorten (hk : k ≠ .file) (hslash : '/' ∈ reversed) : (shorten k reversed).head? = some '/' := by
  unfold shorten
  have hfile : (k == .file) = false := beq_eq_false_iff_ne.mpr hk
  simp only [hfile, Bool.false_and, Bool.false_eq_true, if_false]
  induction reversed with
  | nil => exact absurd hslash (by simp)
  | cons c cs ih =>
    by_cases hc : c = '/'
    · simp [hc]
    · rw [List.dropWhile_cons_of_pos (by simpa using hc)]
      rcases List.mem_cons.mp hslash with heq | hmem
      · exact absurd heq.symm hc
      · exact ih hmem

theorem above_suffix (k : SchemeKind) (reversed : List Char) : above k reversed <:+ reversed := by
  unfold above
  split
  · dsimp only
    split
    · exact (shorten_suffix k _).trans (List.suffix_cons _ _)
    · exact List.suffix_rfl
  · exact List.suffix_rfl

theorem above_ready (h : Ready k reversed) : Ready k (above k reversed) := by
  intro hk
  unfold above
  split
  · dsimp only
    split
    · rename_i hcontains
      simp only [Bool.and_eq_true, List.contains_iff_mem] at hcontains
      exact head?_shorten hk hcontains.1
    · rfl
  · exact h hk

theorem Grown.slashed (h : Grown k reversed) (hready : Ready k reversed) :
    Grown k (slashed reversed) ∧ Ready k (slashed reversed) := by
  unfold Path.slashed
  by_cases hhead : reversed.head? = some '/'
  · rw [if_pos (by simpa using hhead)]
    exact ⟨h, hready⟩
  · have hfile : k = .file := by
      by_contra hk
      exact hhead (hready hk)
    rw [if_neg (by simpa using hhead)]
    refine ⟨⟨?_, fun hk => absurd hfile hk, fun hk => absurd hfile hk⟩, fun hk => absurd hfile hk⟩
    exact List.disjoint_cons_left.mpr ⟨by decide, h.clean⟩

/-- A segment that is no dot does not make a path start with one. -/
theorem not_suffix_append {front : List Char} (hlast : reversed.getLast? = some '/')
    (hhead : reversed.head? = some '/') (hdot : ¬ ['/', '.', '/'] <:+ reversed) (hfront : ¬ ['/', '.'] <:+ front) :
    ¬ ['/', '.', '/'] <:+ front ++ reversed := by
  rcases reversed with _ | ⟨a, _ | ⟨b, _ | ⟨c, rest⟩⟩⟩
  · exact nomatch hhead
  · rintro ⟨t, ht⟩
    have hsplit : (t ++ ['/', '.']) ++ ['/'] = front ++ [a] := by simpa using ht
    have hparts := List.append_inj' hsplit rfl
    exact hfront ⟨t, hparts.1⟩
  · rintro ⟨t, ht⟩
    have ha : a = '/' := by simpa using hhead
    have hreverse := congrArg List.reverse ht
    simp [ha] at hreverse
  · intro hsuffix
    exact hdot (List.suffix_of_suffix_length_le hsuffix (List.suffix_append _ _) (by simp))

/-- A segment that is no dot does not start with a dot and a slash, also with a slash behind it. -/
theorem not_suffix_segment (hslash : '/' ∉ segment) (hsingle : isSingleDot segment ≠ true) (slash : Bool) :
    ¬ ['/', '.'] <:+ (if slash then ['/'] else []) ++ segment.reverse := by
  have hnone {t : List Char} (ht : t ++ ['/', '.'] = segment.reverse) : False :=
    hslash (List.mem_reverse.mp (ht ▸ List.mem_append_right t List.mem_cons_self))
  rintro ⟨t, ht⟩
  cases slash with
  | false => exact hnone ht
  | true =>
    -- the slash behind the segment is the only one, so the segment would have to be the dot
    cases t with
    | nil =>
      have hreverse : segment.reverse = ['.'] := (List.cons.inj ht).2.symm
      have hdot : segment = ['.'] := by simpa using congrArg List.reverse hreverse
      exact hsingle (by rw [hdot]; decide)
    | cons c t => exact hnone (List.cons.inj ht).2

theorem Grown.above (h : Grown k reversed) (hready : Ready k reversed) : Grown k (above k reversed) := by
  refine h.of_suffix (above_suffix k reversed) fun hk hnil => ?_
  have hhead := above_ready hready hk
  rw [hnil] at hhead
  exact nomatch hhead

/-- A segment that is no dot, behind the path of a file. -/
theorem append_file_clean (h : reversed.Disjoint pathMarks) (hclean : segment.Disjoint pathMarks)
    (hdouble : isDoubleDot segment ≠ true) (hsingle : isSingleDot segment ≠ true) (slash : Bool) :
    (append .file reversed segment slash).Disjoint pathMarks := by
  have hslash : '/' ∉ pathMarks := by decide
  have hslashes : (if slash then ['/'] else []).Disjoint pathMarks := by cases slash <;> simp [hslash]
  have hsegment (drive : Bool) : (if drive then segment.take 1 ++ [':'] else segment).Disjoint pathMarks := by
    cases drive with
    | true =>
      have hcolon : [':'].Disjoint pathMarks := by simp [pathMarks]
      exact List.disjoint_append_left.mpr
        ⟨disjoint_of_mem_left (fun _ hc => List.mem_of_mem_take hc) hclean, hcolon⟩
    | false => exact hclean
  have hbehind (drive : Bool) : (if drive then '/' :: reversed else reversed).Disjoint pathMarks := by
    cases drive with
    | true => exact List.disjoint_cons_left.mpr ⟨hslash, h⟩
    | false => exact h
  unfold append
  rw [if_neg hdouble, if_neg hsingle]
  refine List.disjoint_append_left.mpr ⟨hslashes, List.disjoint_append_left.mpr ⟨?_, hbehind _⟩⟩
  exact List.disjoint_reverse_left.mpr (hsegment _)

/-- A segment that is no dot, behind any other path. -/
theorem append_other (hk : k ≠ .file) (hdouble : isDoubleDot segment ≠ true) (hsingle : isSingleDot segment ≠ true)
    (slash : Bool) :
    append k reversed segment slash = ((if slash then ['/'] else []) ++ segment.reverse) ++ reversed := by
  have hfile : (k == SchemeKind.file) = false := beq_eq_false_iff_ne.mpr hk
  unfold append
  simp only [hdouble, hsingle, hfile, Bool.false_and, Bool.false_eq_true, if_false, List.append_assoc]

/-- One segment more. -/
theorem append_grown (h : Grown k reversed) (hready : Ready k reversed) (hclean : segment.Disjoint pathMarks)
    (hslash : '/' ∉ segment) (slash : Bool) :
    Grown k (append k reversed segment slash) ∧ (slash = true → Ready k (append k reversed segment slash)) := by
  by_cases hdouble : isDoubleDot segment = true
  · have habove : Grown k (above k reversed) := h.above hready
    unfold append
    rw [if_pos hdouble]
    dsimp only
    cases slash with
    | true =>
      obtain ⟨hgrown, hends⟩ := habove.slashed (above_ready hready)
      exact ⟨hgrown, fun _ => hends⟩
    | false => exact ⟨habove, fun hfalse => nomatch hfalse⟩
  by_cases hsingle : isSingleDot segment = true
  · obtain ⟨hgrown, hends⟩ := h.slashed hready
    unfold append
    rw [if_neg hdouble, if_pos hsingle]
    exact ⟨hgrown, fun _ => hends⟩
  by_cases hfile : k = .file
  · subst hfile
    exact ⟨.file (append_file_clean h.clean hclean hdouble hsingle slash), fun _ hk => absurd rfl hk⟩
  rw [append_other hfile hdouble hsingle]
  have hfront : ((if slash then ['/'] else []) ++ segment.reverse).Disjoint pathMarks := by
    have hmark : '/' ∉ pathMarks := by decide
    refine List.disjoint_append_left.mpr ⟨?_, List.disjoint_reverse_left.mpr hclean⟩
    cases slash <;> simp [hmark]
  have hne : reversed ≠ [] := by
    rintro rfl
    exact nomatch h.rooted hfile
  refine ⟨⟨List.disjoint_append_left.mpr ⟨hfront, h.clean⟩, fun hk => ?_, fun hk => ?_⟩, fun hs hk => by simp [hs]⟩
  · rw [List.getLast?_append_of_ne_nil _ hne]
    exact h.rooted hk
  · exact not_suffix_append (h.rooted hk) (hready hk) (h.undotted hk) (not_suffix_segment hslash hsingle slash)

theorem encode_segment_disjoint {segment : List Char} (hslash : '/' ∉ segment) :
    (Percent.encode Percent.Set.path segment).Disjoint pathMarks ∧ '/' ∉ Percent.encode Percent.Set.path segment := by
  constructor
  · exact Percent.encode_disjoint_of_set segment (by simp [pathMarks, urlMarks]) (List.all_eq_true.mp (by decide))
  · have hdisjoint : (Percent.encode Percent.Set.path segment).Disjoint ['/'] :=
      Percent.encode_disjoint (by simp [urlMarks]) fun m hm => by
        rw [List.mem_singleton.mp hm]
        exact Or.inr hslash
    exact fun hmem => hdisjoint hmem (List.mem_singleton.mpr rfl)

theorem appendAll_grown (segments : List (List Char)) (hsegments : ∀ s ∈ segments, '/' ∉ s)
    (h : Grown k reversed) (hready : Ready k reversed) : Grown k (appendAll k reversed segments) := by
  induction segments generalizing reversed with
  | nil => exact h
  | cons segment segments ih =>
    obtain ⟨hclean, hslash⟩ := encode_segment_disjoint (hsegments segment List.mem_cons_self)
    cases segments with
    | nil => exact (append_grown h hready hclean hslash false).1
    | cons next segments =>
      obtain ⟨hgrown, hends⟩ := append_grown h hready hclean hslash true
      exact ih (fun s hs => hsegments s (List.mem_cons_of_mem _ hs)) hgrown (hends rfl)

/-- What is true of a path that has been read. -/
theorem extend_spec {start : List Char} (h : Grown k start.reverse) (hready : Ready k start.reverse)
    (text : List Char) :
    (extend k start text).Disjoint pathMarks ∧ (extend k start text).head? = some '/' ∧
      (k ≠ .file → ¬ ['/', '.', '/'] <+: extend k start text) := by
  have hsegments : ∀ s ∈ Text.splitWhere (isSlash k) text, '/' ∉ s := by
    intro s hs hmem
    have hnot := (Text.mem_of_mem_splitWhere hs hmem).2
    simp [isSlash] at hnot
  have hgrown := appendAll_grown _ hsegments h hready
  unfold extend
  dsimp only
  by_cases hfile : k = .file
  · rw [if_pos (by simp [hfile])]
    refine ⟨List.disjoint_cons_left.mpr ⟨by decide, ?_⟩, rfl, fun hk => absurd hfile hk⟩
    refine disjoint_of_mem_left (fun c hc => ?_) hgrown.clean
    exact List.mem_reverse.mp ((List.dropWhile_sublist _).subset hc)
  · rw [if_neg (by simpa using hfile)]
    refine ⟨List.disjoint_reverse_left.mpr hgrown.clean, ?_, fun hk hprefix => hgrown.undotted hk ?_⟩
    · rw [List.head?_reverse]
      exact hgrown.rooted hfile
    · simpa using List.reverse_suffix.mpr hprefix

end Path

/-! ## Query, fragment and path of a URL -/

namespace IsNormal

variable {u b : Url}

theorem encode_fragment_disjoint (cs : List Char) :
    (Percent.encode Percent.Set.fragment cs).Disjoint ['\x00'] :=
  Percent.encode_disjoint_of_set cs (by simp [urlMarks]) (List.all_eq_true.mp (by decide))

theorem withFragment (hu : u.IsNormal) (cs : List Char) : (u.withFragment cs).IsNormal :=
  { hu with
    fragment := by
      intro f hf
      rw [Option.mem_some_iff.mp hf.symm]
      exact encode_fragment_disjoint cs }

/-- Query and fragment are read without their marks. -/
theorem withTail (hu : u.IsNormal) (rest : List Char) : (u.withTail rest).IsNormal := by
  unfold Url.withTail
  dsimp only
  split
  · rename_i cs
    refine { hu with query := ?_, fragment := fun f hf => ?_ }
    · intro q hq
      rw [← Option.mem_some_iff.mp hq]
      split
      · exact Percent.encode_disjoint_of_set _ (by simp [urlMarks]) (List.all_eq_true.mp (by decide))
      · exact Percent.encode_disjoint_of_set _ (by simp [urlMarks]) (List.all_eq_true.mp (by decide))
    · dsimp only at hf
      split at hf
      · rw [← Option.mem_some_iff.mp hf]
        exact encode_fragment_disjoint _
      · cases hf
  · refine { hu with query := by simp, fragment := fun f hf => ?_ }
    dsimp only at hf
    split at hf
    · rw [← Option.mem_some_iff.mp hf]
      exact encode_fragment_disjoint _
    · cases hf

/-- A path is read behind a start that can be one. -/
theorem withPath (hu : u.IsNormal) {start : List Char} (hstart : Path.Grown (SchemeKind.of u.scheme) start.reverse)
    (hready : Path.Ready (SchemeKind.of u.scheme) start.reverse) (rest : List Char) :
    (u.withPath start rest).IsNormal := by
  obtain ⟨hclean, hrooted, hundotted⟩ := Path.extend_spec hstart hready (rest.takeWhile (!endsPath ·))
  have hpath : { u with path := Path.extend (SchemeKind.of u.scheme) start (rest.takeWhile (!endsPath ·)) : Url }.IsNormal :=
    { hu with
      path := hclean
      rooted := fun _ => Or.inr hrooted
      undotted := hundotted }
  exact hpath.withTail _

/-- A path from the root. -/
theorem withRootPath (hu : u.IsNormal) (rest : List Char) : (u.withPath ['/'] rest).IsNormal :=
  hu.withPath (Path.Grown.root _) (fun _ => rfl) rest

end IsNormal

/-- A URL of a scheme and an authority is normal, if they are. -/
theorem isNormal_of_authority {scheme authority : List Char} (hscheme : scheme.Disjoint [':', '\x00'])
    (hauthority : authority.Disjoint authorityMarks) :
    (⟨scheme, some authority, [], none, none⟩ : Url).IsNormal where
  scheme := hscheme
  authority := by
    intro a ha
    rw [← Option.mem_some_iff.mp ha]
    exact hauthority
  path := by simp
  query := by simp
  fragment := by simp
  rooted := fun _ => Or.inl rfl
  undotted := fun _ => by simp
  plain := by simp

/-- A URL of a scheme and a path is normal, if they are. -/
theorem isNormal_of_path {scheme path : List Char} (hscheme : scheme.Disjoint [':', '\x00'])
    (hother : SchemeKind.of scheme = .other) (hpath : path.Disjoint Path.pathMarks)
    (hdot : ¬ ['/', '.', '/'] <+: path) : (⟨scheme, none, path, none, none⟩ : Url).IsNormal where
  scheme := hscheme
  authority := by simp
  path := hpath
  query := by simp
  fragment := by simp
  rooted := by simp
  undotted := fun _ => hdot
  plain := fun _ => hother

/-! ## Authorities -/

theorem userinfo_disjoint (cs : List Char) : (userinfo cs).Disjoint authorityMarks := by
  have hset : ∀ m ∈ authorityMarks, Percent.Set.userinfo m = true := List.all_eq_true.mp (by decide)
  have hencode (cs : List Char) : (Percent.encode Percent.Set.userinfo cs).Disjoint authorityMarks :=
    Percent.encode_disjoint_of_set cs authorityMarks_subset hset
  have hat : ['@'].Disjoint authorityMarks := by simp [authorityMarks]
  have hpassword (password : List Char) (h : password.Disjoint authorityMarks) :
      (if password.isEmpty then [] else ':' :: password).Disjoint authorityMarks := by
    split
    · simp
    · exact List.disjoint_cons_left.mpr ⟨by decide, h⟩
  have hboth (both : List Char) (h : both.Disjoint authorityMarks) :
      (if both.isEmpty then [] else both ++ ['@']).Disjoint authorityMarks := by
    split
    · simp
    · exact List.disjoint_append_left.mpr ⟨h, hat⟩
  exact hboth _ (List.disjoint_append_left.mpr ⟨hencode _, hpassword _ (hencode _)⟩)

section Authority

variable {scheme cs host : List Char} {named : List Char × List Char}

theorem port?_subset {read : Option Nat × List Char} (h : port? scheme cs = .ok read) : read.2 ⊆ cs := by
  unfold port? at h
  dsimp only at h
  split at h
  · exact nomatch h
  split at h
  · exact nomatch h
  · cases h
    exact (List.dropWhile_sublist _).subset

/-- A host is written alone, or with a port. What follows a port has been written before. -/
theorem withPort_cases (h : withPort scheme host cs = .ok named) :
    (named.1 = host ∨ ∃ port, named.1 = host ++ ':' :: Nat.toDigits 10 port) ∧ named.2 ⊆ cs := by
  unfold withPort at h
  split at h
  · rename_i behind
    split at h
    · exact nomatch h
    · cases hread : port? scheme behind with
      | error e =>
        rw [hread] at h
        exact nomatch h
      | ok read =>
        have hbehind : read.2 ⊆ ':' :: behind := fun _ hc => List.mem_cons_of_mem _ (port?_subset hread hc)
        obtain ⟨port, more⟩ := read
        rw [hread] at h
        cases port with
        | none =>
          cases h
          exact ⟨.inl rfl, hbehind⟩
        | some port =>
          cases h
          exact ⟨.inr ⟨port, rfl⟩, hbehind⟩
  · cases h
    exact ⟨.inl rfl, List.nil_subset _⟩

theorem hostAndPort_cases {k : SchemeKind} (h : hostAndPort k scheme cs = .ok named) :
    ∃ host, (Host.read? (hostEnd false cs).1 = .ok host ∨ Host.readOpaque? (hostEnd false cs).1 = .ok host) ∧
      withPort scheme host (hostEnd false cs).2 = .ok named := by
  unfold hostAndPort at h
  dsimp only at h
  split at h
  · exact nomatch h
  · obtain ⟨host, hread, h⟩ := except_bind_eq_ok.mp h
    refine ⟨host, ?_, h⟩
    split at hread
    · exact .inl hread
    · exact .inr hread

theorem authority?_cases {more : Bool} {read : List Char × List Char} (h : authority? scheme cs more = .ok read) :
    ∃ named, hostAndPort (SchemeKind.of scheme) scheme (splitUser cs).2 = .ok named ∧
      read = (((splitUser cs).1.map userinfo).getD [] ++ named.1, named.2) := by
  unfold authority? at h
  dsimp only at h
  split at h
  · exact nomatch h
  · obtain ⟨named, hnamed, h⟩ := except_bind_eq_ok.mp h
    split at h
    · exact nomatch h
    · cases h
      exact ⟨named, hnamed, rfl⟩

theorem withPort_disjoint (hhost : host.Disjoint authorityMarks) (h : withPort scheme host cs = .ok named) :
    named.1.Disjoint authorityMarks := by
  have hport (port : Nat) : (':' :: Nat.toDigits 10 port).Disjoint authorityMarks :=
    List.disjoint_cons_left.mpr
      ⟨by decide, fun _ hc hmark => toDigits_disjoint 10 port hc (authorityMarks_subset hmark)⟩
  rcases (withPort_cases h).1 with heq | ⟨port, heq⟩
  · rwa [heq]
  · rw [heq]
    exact List.disjoint_append_left.mpr ⟨hhost, hport port⟩

theorem hostAndPort_disjoint {k : SchemeKind} (h : hostAndPort k scheme cs = .ok named) :
    named.1.Disjoint authorityMarks := by
  obtain ⟨host, hread | hread, h⟩ := hostAndPort_cases h
  · exact withPort_disjoint (Host.read?_disjoint hread) h
  · exact withPort_disjoint (Host.readOpaque?_disjoint hread) h

theorem authority?_disjoint {more : Bool} {read : List Char × List Char} (h : authority? scheme cs more = .ok read) :
    read.1.Disjoint authorityMarks := by
  have huser (user : Option (List Char)) : ((user.map userinfo).getD []).Disjoint authorityMarks := by
    cases user with
    | none => simp
    | some user => exact userinfo_disjoint user
  obtain ⟨named, hnamed, rfl⟩ := authority?_cases h
  exact List.disjoint_append_left.mpr ⟨huser _, hostAndPort_disjoint hnamed⟩

end Authority

theorem IsNormal.withRest {u : Url} (hu : u.IsNormal) (rest : List Char) : (u.withRest rest).IsNormal := by
  unfold Url.withRest
  dsimp only
  split
  · split
    · exact hu.withRootPath _
    · exact hu
  · split
    · exact hu.withRootPath _
    · split
      · exact hu.withTail _
      · exact hu.withRootPath _

/-- What stands behind two slashes gives a normal URL. -/
theorem readAuthority_isNormal {scheme cs : List Char} {u : Url} (hscheme : scheme.Disjoint [':', '\x00'])
    (h : readAuthority scheme cs = .ok u) : u.IsNormal := by
  unfold readAuthority at h
  dsimp only at h
  obtain ⟨read, hread, h⟩ := except_bind_eq_ok.mp h
  cases h
  exact (isNormal_of_authority hscheme (authority?_disjoint hread)).withRest _

/-! ## The forms behind a scheme -/

theorem readOther_isNormal {scheme cs : List Char} {u : Url} (hscheme : scheme.Disjoint [':', '\x00'])
    (hother : SchemeKind.of scheme = .other) (h : readOther scheme cs = .ok u) : u.IsNormal := by
  unfold readOther at h
  split at h
  · exact readAuthority_isNormal hscheme h
  · cases h
    exact (isNormal_of_path hscheme hother (by simp) (by simp)).withRootPath _
  · rename_i hslash
    cases h
    refine (isNormal_of_path hscheme hother ?_ ?_).withTail _
    · refine Percent.encode_disjoint (by simp [Path.pathMarks, urlMarks]) fun m hm => ?_
      simp only [Path.pathMarks, List.mem_cons, List.not_mem_nil, or_false] at hm
      have hends (hmark : endsPath m = true) : m ∉ cs.takeWhile (!endsPath ·) := by
        intro hmem
        have hnot := List.all_eq_true.mp List.all_takeWhile m hmem
        simp [hmark] at hnot
      rcases hm with rfl | rfl | rfl
      · exact Or.inr (hends (by decide))
      · exact Or.inr (hends (by decide))
      · exact Or.inl (by decide)
    · rintro ⟨t, ht⟩
      have hhead := Percent.head?_encode (show '/' ∈ urlMarks by decide) (congrArg List.head? ht.symm)
      cases cs with
      | nil => cases hhead
      | cons c cs =>
        -- a text that starts with a slash has been read as a path from the root
        have hc : c = '/' := by
          by_cases hends : endsPath c = true
          · simp [hends] at hhead
          · simpa [hends] using hhead
        exact hslash cs (by rw [hc])

/-- What holds of all characters that a scheme may have, in lower case, holds of the characters of a scheme. -/
theorem forall_mem_of_scheme? {P : Char → Prop} {cs scheme rest : List Char} (h : scheme? cs = some (scheme, rest))
    (hP : ∀ n < 128, Char.isAlphanum (Char.ofNat n) ∨ Char.ofNat n = '+' ∨ Char.ofNat n = '-' ∨ Char.ofNat n = '.' →
      P (Char.ofNat n).toLower) : ∀ c ∈ scheme, P c := by
  have hallowed (c : Char) (hc : (c.isAlphanum || c == '+' || c == '-' || c == '.') = true) : P c.toLower := by
    simp only [Bool.or_eq_true, beq_iff_eq, or_assoc] at hc
    have hascii : c.toNat < 128 := by
      rcases hc with halnum | rfl | rfl | rfl
      · delta Char.isAlphanum Char.isAlpha Char.isUpper Char.isLower Char.isDigit at halnum
        simp only [Bool.or_eq_true, Bool.and_eq_true, decide_eq_true_eq, UInt32.le_iff_toNat_le] at halnum
        show c.val.toNat < 128
        rcases halnum with (h | h) | h
        · exact Nat.lt_of_le_of_lt h.2 (by decide)
        · exact Nat.lt_of_le_of_lt h.2 (by decide)
        · exact Nat.lt_of_le_of_lt h.2 (by decide)
      · decide
      · decide
      · decide
    have hspec := hP c.toNat hascii
    rw [Char.ofNat_toNat] at hspec
    exact hspec hc
  unfold scheme? at h
  dsimp only at h
  split at h
  · rename_i c name rest' hname hrest
    split at h
    · cases h
      intro d hd
      obtain ⟨e, he, rfl⟩ := List.mem_map.mp hd
      exact hallowed e (List.all_eq_true.mp List.all_takeWhile e he)
    · cases h
  · cases h

theorem scheme?_disjoint {cs scheme rest : List Char} (h : scheme? cs = some (scheme, rest)) :
    scheme.Disjoint [':', '\x00'] :=
  forall_mem_of_scheme? h (by decide)

/-- A file on a host. -/
theorem isNormal_file {host : List Char} (hhost : host.Disjoint authorityMarks) :
    (⟨['f', 'i', 'l', 'e'], some host, [], none, none⟩ : Url).IsNormal :=
  isNormal_of_authority (by simp) hhost

theorem IsNormal.exists_authority {b : Url} (hb : b.IsNormal) (hkind : SchemeKind.of b.scheme ≠ .other) :
    ∃ a, b.authority = some a ∧ a.Disjoint authorityMarks := by
  cases ha : b.authority with
  | none => exact absurd (hb.plain ha) hkind
  | some a => exact ⟨a, rfl, hb.authority a ha⟩

theorem absoluteInBase_isNormal {base : Option Url} {rest : List Char} {u : Url}
    (hbase : ∀ b ∈ base, b.IsNormal ∧ SchemeKind.of b.scheme = .file)
    (h : readFile.absoluteInBase base ⟨['f', 'i', 'l', 'e'], some [], [], none, none⟩ rest = .ok u) : u.IsNormal := by
  have hfile := isNormal_file (List.disjoint_nil_left authorityMarks)
  unfold readFile.absoluteInBase at h
  cases base with
  | none =>
    cases h
    exact hfile.withRootPath _
  | some b =>
    obtain ⟨hb, hkind⟩ := hbase b rfl
    dsimp only at h
    split at h
    · cases h
      exact hfile.withRootPath _
    split at h
    · cases h
      refine hfile.withPath (Path.Grown.file ?_) (fun hk => absurd rfl hk) _
      have hfirst : ((b.path.drop 1).takeWhile (· != '/')).Disjoint Path.pathMarks :=
        disjoint_of_mem_left (fun c hc => List.mem_of_mem_drop ((List.takeWhile_prefix _).subset hc)) hb.path
      rw [List.disjoint_reverse_left]
      refine List.disjoint_append_left.mpr ⟨List.disjoint_cons_left.mpr ⟨by decide, hfirst⟩, ?_⟩
      simp [Path.pathMarks]
    · obtain ⟨a, ha, hclean⟩ := hb.exists_authority (by simp [hkind])
      cases h
      rw [ha]
      exact (isNormal_file hclean).withRootPath _

theorem relative_isNormal {base : Option Url} {cs : List Char} {u : Url}
    (hbase : ∀ b ∈ base, b.IsNormal ∧ SchemeKind.of b.scheme = .file)
    (h : readFile.relative base ⟨['f', 'i', 'l', 'e'], some [], [], none, none⟩ cs = .ok u) : u.IsNormal := by
  have hfile := isNormal_file (List.disjoint_nil_left authorityMarks)
  unfold readFile.relative at h
  cases base with
  | none =>
    cases h
    exact hfile.withRootPath _
  | some b =>
    obtain ⟨hb, hkind⟩ := hbase b rfl
    dsimp only at h
    split at h
    · cases h
      exact { hb with fragment := by simp }
    · cases h
      exact hb.withTail _
    · cases h
      exact hb.withFragment _
    · split at h
      · cases h
        exact hfile.withRootPath _
      · cases h
        refine hb.withPath ?_ (fun hk => absurd hkind hk) _
        rw [hkind, List.reverse_reverse]
        refine Path.Grown.file (disjoint_of_mem_left (fun c hc => ?_) hb.path)
        exact List.mem_reverse.mp ((Path.shorten_suffix _ _).subset hc)

/-- What is read as a file, or relative to one, is normal. -/
theorem readFile_isNormal {base : Option Url} {cs : List Char} {u : Url}
    (hbase : ∀ b ∈ base, b.IsNormal ∧ SchemeKind.of b.scheme = .file) (h : readFile base cs = .ok u) :
    u.IsNormal := by
  have hfile := isNormal_file (List.disjoint_nil_left authorityMarks)
  unfold readFile at h
  dsimp only at h
  split at h
  · split at h
    · split at h
      · split at h
        · split at h
          · cases h
            exact hfile.withRootPath _
          split at h
          · cases h
            exact hfile.withRootPath _
          · obtain ⟨host, hhost, h⟩ := except_bind_eq_ok.mp h
            cases h
            refine (isNormal_file ?_).withRootPath _
            split
            · simp
            split
            · simp
            · exact Host.read?_disjoint hhost
        · exact absoluteInBase_isNormal hbase h
      · exact absoluteInBase_isNormal hbase h
    · exact relative_isNormal hbase h
  · exact relative_isNormal hbase h

/-- A path is read behind the one of a normal URL without its last segment, which keeps the slash that it starts with. -/
theorem IsNormal.withPath_shorten {base : Url} (hbase : base.IsNormal) (hkind : SchemeKind.of base.scheme ≠ .file)
    (hhead : base.path.head? = some '/') :
    Path.shorten (SchemeKind.of base.scheme) base.path.reverse ≠ [] ∧
      ∀ rest, (base.withPath (Path.shorten (SchemeKind.of base.scheme) base.path.reverse).reverse rest).IsNormal := by
  have hends : (Path.shorten (SchemeKind.of base.scheme) base.path.reverse).head? = some '/' :=
    Path.head?_shorten hkind (List.mem_reverse.mpr (List.mem_of_mem_head? hhead))
  have hne : Path.shorten (SchemeKind.of base.scheme) base.path.reverse ≠ [] := by
    intro hnil
    rw [hnil] at hends
    exact nomatch hends
  have hgrown : Path.Grown (SchemeKind.of base.scheme) base.path.reverse :=
    { clean := List.disjoint_reverse_left.mpr hbase.path
      rooted := fun _ => by rwa [List.getLast?_reverse]
      undotted := fun _ hsuffix => hbase.undotted hkind (by simpa using List.reverse_prefix.mpr hsuffix) }
  refine ⟨hne, hbase.withPath ?_ ?_⟩
  · rw [List.reverse_reverse]
    exact hgrown.of_suffix (Path.shorten_suffix _ _) fun _ => hne
  · rw [List.reverse_reverse]
    exact fun _ => hends

/-- What is read relative to another URL is normal. -/
theorem readRelative_isNormal {base : Url} {cs : List Char} {u : Url} (hbase : base.IsNormal)
    (hkind : SchemeKind.of base.scheme ≠ .file) (hrelative : base.isOpaque = false)
    (h : readRelative base cs = .ok u) : u.IsNormal := by
  unfold readRelative at h
  dsimp only at h
  split at h
  · cases h
    exact { hbase with fragment := by simp }
  · cases h
    exact hbase.withTail _
  · cases h
    exact hbase.withFragment _
  split at h
  · split at h
    · exact readAuthority_isNormal hbase.scheme h
    · cases h
      exact hbase.withRootPath _
  · cases h
    have hrooted : base.path = [] ∨ base.path.head? = some '/' := by
      cases ha : base.authority with
      | some a => exact hbase.rooted (by simp [ha])
      | none => exact Or.inr (by simpa [isOpaque, ha] using hrelative)
    rcases hrooted with hnil | hhead
    · have hempty : (Path.shorten (SchemeKind.of base.scheme) base.path.reverse).reverse.isEmpty = true := by
        have hsuffix := Path.shorten_suffix (SchemeKind.of base.scheme) base.path.reverse
        rw [hnil, List.reverse_nil, List.suffix_nil] at hsuffix
        rw [hnil, List.reverse_nil, hsuffix]
        rfl
      rw [if_pos hempty]
      exact hbase.withRootPath _
    · obtain ⟨hne, hnormal⟩ := hbase.withPath_shorten hkind hhead
      rw [if_neg (by simpa using hne)]
      exact hnormal _

/-! ## The reading -/

/-- What is read as a URL is normal, on its own or relative to a normal base. -/
theorem read?_isNormal {base : Option Url} {text : String} {u : Url} (hbase : ∀ b ∈ base, b.IsNormal)
    (h : read? base text = .ok u) : u.IsNormal := by
  unfold read? at h
  dsimp only at h
  cases hscheme : scheme? (cleaned text.toList) with
  | some parts =>
    obtain ⟨scheme, rest⟩ := parts
    have hclean := scheme?_disjoint hscheme
    rw [hscheme] at h
    dsimp only at h
    split at h
    · rename_i hkind
      refine readFile_isNormal (fun b hb => ?_) h
      obtain ⟨hmem, hsame⟩ := Option.mem_filter_iff.mp hb
      rw [beq_iff_eq.mp hsame]
      exact ⟨hbase b hmem, hkind⟩
    · rename_i hkind
      exact readOther_isNormal hclean hkind h
    · rename_i hkind
      split at h
      · rename_i b
        split at h
        · rename_i hsame
          have hb := hbase b rfl
          have hweb : SchemeKind.of b.scheme = .web := by
            simp only [Bool.and_eq_true, beq_iff_eq] at hsame
            rw [hsame.2, hkind]
          obtain ⟨a, ha, -⟩ := hb.exists_authority (by simp [hweb])
          exact readRelative_isNormal hb (by simp [hweb]) (by simp [isOpaque, ha]) h
        · exact readAuthority_isNormal hclean h
      · exact readAuthority_isNormal hclean h
  | none =>
    rw [hscheme] at h
    dsimp only at h
    split at h
    · exact nomatch h
    · rename_i b
      have hb := hbase b rfl
      split at h
      · cases h
        exact hb.withFragment _
      · split at h
        · exact nomatch h
        rename_i hrelative
        split at h
        · rename_i hkind
          refine readFile_isNormal (fun c hc => ?_) h
          rw [← Option.mem_some_iff.mp hc]
          exact ⟨hb, by simpa using hkind⟩
        · rename_i hkind
          exact readRelative_isNormal hb (by simpa using hkind) (by simpa using hrelative) h

/-- The URL of the whole document is normal as well. -/
theorem IsNormal.withoutFragment {u : Url} (hu : u.IsNormal) : u.withoutFragment.IsNormal := by
  unfold Url.withoutFragment
  dsimp only
  split
  · rename_i hrelative
    have hprefix : (u.path.reverse.dropWhile (· == ' ')).reverse <+: u.path := by
      simpa using List.reverse_prefix.mpr (List.dropWhile_suffix (l := u.path.reverse) (· == ' '))
    have hnone : u.authority = none := by
      simp only [Bool.and_eq_true, isOpaque, Option.isNone_iff_eq_none] at hrelative
      exact hrelative.1.1
    exact
      { hu with
        path := disjoint_of_mem_left (fun _ hc => hprefix.subset hc) hu.path
        fragment := by simp
        rooted := by simp [hnone]
        undotted := fun hk hdot => hu.undotted hk (hdot.trans hprefix) }
  · exact { hu with fragment := by simp }

/-- The URL of a path is normal. -/
theorem ofFilePath?_isNormal {path : List Char} {u : Url} (h : ofFilePath? path = some u) : u.IsNormal := by
  unfold ofFilePath? at h
  dsimp only at h
  split at h
  · cases h
    have hfile := isNormal_file (List.disjoint_nil_left authorityMarks)
    refine { hfile with path := ?_, rooted := fun _ => Or.inr rfl, undotted := fun hk => absurd rfl hk }
    refine List.disjoint_cons_left.mpr ⟨by decide, fun c hc hmark => ?_⟩
    rcases Text.mem_joinWith hc with rfl | ⟨piece, hpiece, hmem⟩
    · exact absurd hmark (by decide)
    · obtain ⟨name, -, rfl⟩ := List.mem_map.mp hpiece
      have hclean : (Percent.encode Percent.Set.pathSegment name).Disjoint ['?', '#', '\x00'] :=
        Percent.encode_disjoint_of_set name (by simp [urlMarks]) (List.all_eq_true.mp (by decide))
      exact hclean hmem hmark
  · exact nomatch h

end Url

end JsonSchema
