import JsonSchema.Proofs.Url.Reading

/-!
# Reading leaves no blanks

A text is read without the blanks and control characters at its ends, and without tabs and line ends. In a URL that has
been read there are none of them, but in opaque paths. So the text of such a URL is read as it stands.

## What is here

* `Url.Visible` — no character of a text is a blank of ASCII or a control character below it.
* `Percent.encode_visible`, `Host.read?_visible`, `authority?_visible`, `Path.extend_visible` — the parts of a URL.
* `Url.IsVisible` — all parts are visible. `Url.parse?_isVisible` — **what is read, but for opaque paths**.
-/

set_option autoImplicit false

namespace JsonSchema

namespace Url

/-- No character is a blank of ASCII or a control character below it. -/
def Visible (cs : List Char) : Prop := ∀ c ∈ cs, 32 < c.toNat

-- one text after the other: a search over all characters would not end
instance (cs : List Char) : Decidable (Visible cs) :=
  decidable_of_iff (cs.all fun c => decide (32 < c.toNat)) (by simp only [List.all_eq_true, decide_eq_true_eq, Visible])

variable {cs ds : List Char}

theorem Visible.nil : Visible [] := List.forall_mem_nil _

theorem visible_cons {c : Char} : Visible (c :: cs) ↔ 32 < c.toNat ∧ Visible cs := List.forall_mem_cons

theorem visible_append : Visible (cs ++ ds) ↔ Visible cs ∧ Visible ds := List.forall_mem_append

theorem visible_reverse : Visible cs.reverse ↔ Visible cs := by
  simp only [Visible, List.mem_reverse]

theorem Visible.of_subset (h : Visible ds) (hsub : cs ⊆ ds) : Visible cs := fun c hc => h c (hsub hc)

/-- A text is visible if it has neither a blank nor a control character below it. -/
theorem visible_of_not {c : Char} (hcontrol : ¬ c.toNat < 32) (hblank : c ≠ ' ') : 32 < c.toNat := by
  have hne : c.toNat ≠ 32 := fun h => hblank (Char.toNat_inj.mp h)
  omega

end Url

open Url

/-! ## Numbers and encoded bytes -/

theorem digitChar_visible (n : Nat) : 32 < (Nat.digitChar n).toNat := by
  by_cases hn : n < 16
  · revert n
    decide
  · have hstar : Nat.digitChar n = '*' := by
      unfold Nat.digitChar
      repeat' rw [if_neg (by omega)]
    rw [hstar]
    decide

theorem toDigits_visible (b n : Nat) : Visible (Nat.toDigits b n) := by
  intro c hc
  obtain ⟨m, rfl⟩ := exists_digitChar_of_mem_toDigits hc
  exact digitChar_visible m

theorem joinWith_visible {separator : Char} {pieces : List (List Char)} (hseparator : 32 < separator.toNat)
    (h : ∀ piece ∈ pieces, Visible piece) : Visible (Text.joinWith separator pieces) := by
  intro c hc
  rcases Text.mem_joinWith hc with rfl | ⟨piece, hpiece, hmem⟩
  · exact hseparator
  · exact h piece hpiece c hmem

theorem joinWith_toDigits_visible {separator : Char} (hseparator : 32 < separator.toNat) (b : Nat) (ns : List Nat) :
    Visible (Text.joinWith separator (ns.map (Nat.toDigits b))) := by
  refine joinWith_visible hseparator fun piece hpiece => ?_
  obtain ⟨n, -, rfl⟩ := List.mem_map.mp hpiece
  exact toDigits_visible b n

namespace Percent

theorem byteChars_visible : Visible byteChars := by
  decide

section Sets

variable {s : Set} (hs : ∀ n < 33, s (Char.ofNat n) = true)

include hs

/-- What is not in a set that has the blank and all control characters below it. -/
theorem visible_of_plain {c : Char} (hplain : s c = false) : 32 < c.toNat := by
  by_contra hnot
  have hset := hs c.toNat (by omega)
  rw [Char.ofNat_toNat, hplain] at hset
  exact absurd hset (by decide)

/-- A part whose set has the blank and all control characters below it. -/
theorem encode_visible (cs : List Char) : Visible (encode s cs) := by
  intro c hc
  rcases mem_or_of_mem_encode hc with ⟨-, -, hplain⟩ | hbyte
  · exact visible_of_plain hs hplain
  · exact byteChars_visible c hbyte

end Sets

end Percent

/-! ## Hosts -/

namespace Ipv6

theorem text_visible (groups : List Nat) : Visible (text groups) := by
  have hwritten (gs : List Nat) : Visible (Text.joinWith ':' (gs.map fun g => Nat.toDigits 16 g)) :=
    joinWith_toDigits_visible (by decide) 16 gs
  unfold text
  dsimp only
  split
  · exact hwritten groups
  · exact visible_append.mpr ⟨visible_append.mpr ⟨hwritten _, by decide⟩, hwritten _⟩

end Ipv6

namespace Host

variable {cs host : List Char}

theorem bracketed?_visible (h : bracketed? cs = .ok host) : Visible host := by
  unfold bracketed? at h
  split at h
  · split at h
    · rename_i groups _
      cases h
      exact visible_cons.mpr ⟨by decide, visible_append.mpr ⟨Ipv6.text_visible groups, by decide⟩⟩
    · exact nomatch h
  · exact nomatch h

theorem read?_visible (h : read? cs = .ok host) : Visible host := by
  unfold read? at h
  split at h
  · exact bracketed?_visible h
  · split at h
    · exact nomatch h
    · rename_i name _
      split at h
      · exact nomatch h
      rename_i hclean
      split at h
      · exact nomatch h
      split at h
      · split at h
        · cases h
          exact joinWith_toDigits_visible (by decide) 10 _
        · exact nomatch h
      · cases h
        intro c hc
        have hnot : ¬ (forbiddenInDomain.contains c || decide (c.toNat < 32) || c.toNat == 127) = true :=
          fun hbad => hclean (List.any_eq_true.mpr ⟨c, hc, hbad⟩)
        refine visible_of_not (fun hcontrol => hnot (by simp [hcontrol])) ?_
        rintro rfl
        exact hnot (by decide)

theorem readOpaque?_visible (h : readOpaque? cs = .ok host) : Visible host := by
  unfold readOpaque? at h
  split at h
  · exact bracketed?_visible h
  split at h
  · exact nomatch h
  · rename_i hclean
    cases h
    intro c hc
    rcases Percent.mem_or_of_mem_encode hc with ⟨hmem, -, hplain⟩ | hbyte
    · refine visible_of_not (fun hcontrol => ?_) ?_
      · simp [Percent.Set.controls, hcontrol] at hplain
      · rintro rfl
        exact hclean (List.any_eq_true.mpr ⟨' ', hmem, by decide⟩)
    · exact Percent.byteChars_visible c hbyte

end Host

namespace Url

/-! ## Authorities -/

theorem userinfo_visible (cs : List Char) : Visible (userinfo cs) := by
  have hencode (cs : List Char) : Visible (Percent.encode Percent.Set.userinfo cs) :=
    Percent.encode_visible (by decide) cs
  have hpassword (password : List Char) (h : Visible password) :
      Visible (if password.isEmpty then [] else ':' :: password) := by
    split
    · exact .nil
    · exact visible_cons.mpr ⟨by decide, h⟩
  have hboth (both : List Char) (h : Visible both) : Visible (if both.isEmpty then [] else both ++ ['@']) := by
    split
    · exact .nil
    · exact visible_append.mpr ⟨h, by decide⟩
  exact hboth _ (visible_append.mpr ⟨hencode _, hpassword _ (hencode _)⟩)

section Authority

variable {scheme cs host : List Char} {named : List Char × List Char}

theorem withPort_visible (hhost : Visible host) (h : withPort scheme host cs = .ok named) : Visible named.1 := by
  rcases (withPort_cases h).1 with heq | ⟨port, heq⟩
  · rwa [heq]
  · rw [heq]
    exact visible_append.mpr ⟨hhost, visible_cons.mpr ⟨by decide, toDigits_visible 10 port⟩⟩

theorem hostAndPort_visible {k : SchemeKind} (h : hostAndPort k scheme cs = .ok named) : Visible named.1 := by
  obtain ⟨host, hread | hread, h⟩ := hostAndPort_cases h
  · exact withPort_visible (Host.read?_visible hread) h
  · exact withPort_visible (Host.readOpaque?_visible hread) h

theorem authority?_visible {more : Bool} {read : List Char × List Char} (h : authority? scheme cs more = .ok read) :
    Visible read.1 := by
  have huser (user : Option (List Char)) : Visible ((user.map userinfo).getD []) := by
    cases user with
    | none => exact .nil
    | some user => exact userinfo_visible user
  obtain ⟨named, hnamed, rfl⟩ := authority?_cases h
  exact visible_append.mpr ⟨huser _, hostAndPort_visible hnamed⟩

end Authority

/-! ## Paths -/

namespace Path

variable {k : SchemeKind} {reversed segment : List Char}

theorem slashed_visible (h : Visible reversed) : Visible (slashed reversed) := by
  unfold slashed
  split
  · exact h
  · exact visible_cons.mpr ⟨by decide, h⟩

theorem append_visible (h : Visible reversed) (hsegment : Visible segment) (slash : Bool) :
    Visible (append k reversed segment slash) := by
  have habove : Visible (above k reversed) := h.of_subset (above_suffix k reversed).subset
  unfold append
  split
  · dsimp only
    split
    · exact slashed_visible habove
    · exact habove
  split
  · exact slashed_visible h
  · have hdrive (drive : Bool) : Visible (if drive then segment.take 1 ++ [':'] else segment) := by
      split
      · exact visible_append.mpr ⟨hsegment.of_subset (List.take_subset 1 segment), by decide⟩
      · exact hsegment
    refine visible_append.mpr ⟨?_, visible_append.mpr ⟨visible_reverse.mpr (hdrive _), ?_⟩⟩
    · cases slash <;> decide
    · split
      · exact visible_cons.mpr ⟨by decide, h⟩
      · exact h

theorem appendAll_visible (segments : List (List Char)) (h : Visible reversed) : Visible (appendAll k reversed segments) := by
  have hsegment (segment : List Char) : Visible (Percent.encode Percent.Set.path segment) :=
    Percent.encode_visible (by decide) segment
  induction segments generalizing reversed with
  | nil => exact h
  | cons segment segments ih =>
    cases segments with
    | nil => exact append_visible h (hsegment segment) false
    | cons next segments => exact ih (append_visible h (hsegment segment) true)

theorem extend_visible {start : List Char} (h : Visible start) (text : List Char) : Visible (extend k start text) := by
  have hpath : Visible (appendAll k start.reverse (Text.splitWhere (isSlash k) text)).reverse :=
    visible_reverse.mpr (appendAll_visible _ (visible_reverse.mpr h))
  unfold extend
  dsimp only
  split
  · exact visible_cons.mpr ⟨by decide, hpath.of_subset (List.dropWhile_sublist _).subset⟩
  · exact hpath

end Path

/-! ## The parts of a URL -/

/-- All parts are visible. -/
structure IsVisible (u : Url) : Prop where
  scheme : Visible u.scheme
  authority : ∀ a ∈ u.authority, Visible a
  path : Visible u.path
  query : ∀ q ∈ u.query, Visible q
  fragment : ∀ f ∈ u.fragment, Visible f

namespace IsVisible

variable {u : Url}

theorem withTail (hu : u.IsVisible) (rest : List Char) : (u.withTail rest).IsVisible := by
  have hfragment (cs : List Char) : Visible (Percent.encode Percent.Set.fragment cs) :=
    Percent.encode_visible (by decide) cs
  unfold Url.withTail
  dsimp only
  split
  · refine { hu with query := ?_, fragment := fun f hf => ?_ }
    · intro q hq
      rw [← Option.mem_some_iff.mp hq]
      split
      · exact Percent.encode_visible (by decide) _
      · exact Percent.encode_visible (by decide) _
    · dsimp only at hf
      split at hf
      · rw [← Option.mem_some_iff.mp hf]
        exact hfragment _
      · cases hf
  · refine { hu with query := by simp, fragment := fun f hf => ?_ }
    dsimp only at hf
    split at hf
    · rw [← Option.mem_some_iff.mp hf]
      exact hfragment _
    · cases hf

/-- A path from the root. -/
theorem withRootPath (hu : u.IsVisible) (rest : List Char) : (u.withPath ['/'] rest).IsVisible :=
  have hpath : Visible (Path.extend (SchemeKind.of u.scheme) ['/'] (rest.takeWhile (!endsPath ·))) :=
    Path.extend_visible (by decide) _
  have hparts : IsVisible { u with path := Path.extend (SchemeKind.of u.scheme) ['/'] (rest.takeWhile (!endsPath ·)) } :=
    { hu with path := hpath }
  hparts.withTail _

theorem withRest (hu : u.IsVisible) (rest : List Char) : (u.withRest rest).IsVisible := by
  unfold Url.withRest
  dsimp only
  split
  · split
    · exact hu.withRootPath _
    · exact hu
  · split
    · exact hu.withRootPath _
    · split
      · exact hu.withTail _
      · exact hu.withRootPath _

/-- The text of a URL with visible parts is visible. -/
theorem chars (hu : u.IsVisible) : Visible u.chars := by
  have hmarked {mark : Char} {part : Option (List Char)} (hmark : 32 < mark.toNat) (h : ∀ cs ∈ part, Visible cs) :
      Visible (marked mark part) := by
    cases part with
    | none => exact .nil
    | some cs => exact visible_cons.mpr ⟨hmark, h cs rfl⟩
  have hhierarchy : Visible (hierarchy u.authority u.path) := by
    refine visible_append.mpr ⟨?_, hu.path⟩
    split
    · rename_i a ha
      exact visible_cons.mpr ⟨by decide, visible_cons.mpr ⟨by decide, hu.authority a ha⟩⟩
    · split <;> decide
  rw [chars_eq]
  exact visible_append.mpr ⟨hu.scheme, visible_cons.mpr ⟨by decide, visible_append.mpr
    ⟨visible_append.mpr ⟨hhierarchy, hmarked (by decide) hu.query⟩, hmarked (by decide) hu.fragment⟩⟩⟩

end IsVisible

/-- A URL of a scheme and an authority is visible, if they are. -/
theorem isVisible_of_authority {scheme authority : List Char} (hscheme : Visible scheme) (hauthority : Visible authority) :
    (⟨scheme, some authority, [], none, none⟩ : Url).IsVisible where
  scheme := hscheme
  authority := by
    intro a ha
    rw [← Option.mem_some_iff.mp ha]
    exact hauthority
  path := .nil
  query := by simp
  fragment := by simp

/-! ## The reading -/

variable {scheme cs : List Char} {u : Url}

theorem readAuthority_isVisible (hscheme : Visible scheme) (h : readAuthority scheme cs = .ok u) : u.IsVisible := by
  unfold readAuthority at h
  dsimp only at h
  obtain ⟨read, hread, h⟩ := except_bind_eq_ok.mp h
  cases h
  exact (isVisible_of_authority hscheme (authority?_visible hread)).withRest _

theorem path_withTail (u : Url) (rest : List Char) : (u.withTail rest).path = u.path := by
  unfold withTail
  dsimp only
  split <;> rfl

theorem authority_withTail (u : Url) (rest : List Char) : (u.withTail rest).authority = u.authority := by
  unfold withTail
  dsimp only
  split <;> rfl

theorem readOther_isVisible (hscheme : Visible scheme) (h : readOther scheme cs = .ok u) (hu : u.isOpaque = false) :
    u.IsVisible := by
  unfold readOther at h
  split at h
  · exact readAuthority_isVisible hscheme h
  · cases h
    refine IsVisible.withRootPath ⟨hscheme, by simp, .nil, by simp, by simp⟩ _
  · rename_i hslash
    -- without an authority only a path from the root is not opaque, and this is none
    cases h
    simp only [isOpaque, authority_withTail, path_withTail, Option.isNone_none, Bool.true_and, bne_eq_false_iff_eq] at hu
    have hhead := Percent.head?_encode (show '/' ∈ urlMarks by decide) hu
    cases cs with
    | nil => cases hhead
    | cons c cs =>
      have hc : c = '/' := by
        by_cases hends : endsPath c = true
        · simp [hends] at hhead
        · simpa [hends] using hhead
      exact (hslash cs (by rw [hc])).elim

/-- A `file` URL has an authority, which may be empty, and a path from the root. -/
theorem exists_host_of_readFile (h : readFile none cs = .ok u) :
    ∃ host rest, u = (⟨['f', 'i', 'l', 'e'], some host, [], none, none⟩ : Url).withPath ['/'] rest ∧ Visible host := by
  unfold readFile at h
  dsimp only [readFile.absoluteInBase, readFile.relative] at h
  split at h
  · split at h
    · split at h
      · split at h
        · split at h
          · cases h
            exact ⟨_, _, rfl, .nil⟩
          split at h
          · cases h
            exact ⟨_, _, rfl, .nil⟩
          · obtain ⟨host, hhost, h⟩ := except_bind_eq_ok.mp h
            cases h
            refine ⟨_, _, rfl, ?_⟩
            split
            · exact .nil
            split
            · exact .nil
            · exact Host.read?_visible hhost
        · cases h
          exact ⟨_, _, rfl, .nil⟩
      · cases h
        exact ⟨_, _, rfl, .nil⟩
    · cases h
      exact ⟨_, _, rfl, .nil⟩
  · cases h
    exact ⟨_, _, rfl, .nil⟩

theorem readFile_isVisible (h : readFile none cs = .ok u) : u.IsVisible := by
  obtain ⟨host, rest, rfl, hhost⟩ := exists_host_of_readFile h
  exact (isVisible_of_authority (by decide) hhost).withRootPath rest

theorem scheme?_visible {rest : List Char} (h : scheme? cs = some (scheme, rest)) : Visible scheme :=
  forall_mem_of_scheme? h (by decide)

/-- What is read as a URL on its own is visible, unless its path is opaque. -/
theorem parse?_isVisible {text : String} (h : parse? text = .ok u) (hu : u.isOpaque = false) : u.IsVisible := by
  unfold parse? read? at h
  dsimp only at h
  cases hscheme : scheme? (cleaned text.toList) with
  | none =>
    rw [hscheme] at h
    exact nomatch h
  | some parts =>
    obtain ⟨scheme, rest⟩ := parts
    have hvisible : Visible scheme := scheme?_visible hscheme
    rw [hscheme] at h
    dsimp only [Option.filter_none] at h
    split at h
    · exact readFile_isVisible h
    · exact readOther_isVisible hvisible h hu
    · exact readAuthority_isVisible hvisible h

end Url

end JsonSchema
