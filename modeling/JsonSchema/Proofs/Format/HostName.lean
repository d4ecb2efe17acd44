import JsonSchema.Format.Standard
import JsonSchema.Proofs.Regex.Occurrence
import JsonSchema.Proofs.Text
import JsonSchema.Proofs.Unicode.Folding

/-!
# Host names

A host name is one or more labels with dots between them. What counts as a letter in a label is told without regard to case,
and by the folding of all of Unicode: the long s and the Kelvin sign are letters as well.

## What is here

* `HostName.isLabel_eq_isIn` — a label is what the pattern for labels finds.
* `HostName.LabelOver`, `HostName.NameOver` — labels and host names over the characters that count as letters.
* `HostName.isHostName_iff` — what is taken for a host name.
* `HostName.hostNameOver_ascii_iff` — the host names over the letters of ASCII among them.
* `hostName_complaint` — **the format complains about all texts but host names over those letters and the two
  characters**. `not_forall_hostName_complaint_ascii` — so it accepts texts that are no host names of ASCII.
-/

set_option autoImplicit false

namespace JsonSchema

namespace HostName

/-! ## Letters -/

/-- A letter of ASCII. -/
def AsciiLetter (c : Char) : Prop := ('a' ≤ c ∧ c ≤ 'z') ∨ ('A' ≤ c ∧ c ≤ 'Z')

/-- A letter of ASCII, the long s or the Kelvin sign. -/
def FoldedLetter (c : Char) : Prop := AsciiLetter c ∨ c = '\u017F' ∨ c = '\u212A'

theorem isLetter_iff {c : Char} : isLetter c = true ↔ FoldedLetter c := by
  simp [isLetter, FoldedLetter, AsciiLetter, or_assoc]

theorem isAlphanumeric_iff {c : Char} : isAlphanumeric c = true ↔ FoldedLetter c ∨ c.isDigit = true := by
  rw [isAlphanumeric, Bool.or_eq_true, isLetter_iff]

/-! ## The pattern for labels -/

/-- The small letters, the digits and other characters. -/
def lowerOr (others : CharSet) : CharSet := .union (.between 'a' 'z') (.union (.between '0' '9') others)

/-- What a label starts and ends with. -/
def endSet : CharSet := .folded (lowerOr .nothing)

/-- What stands between. -/
def insideSet : CharSet := .folded (lowerOr (.union (.single '-') .nothing))

/-- The pattern for labels: a character of the ends, which may also be followed by others up to another one of them. -/
def labelPattern : Pattern :=
  ⟨.sequence [.sequence [], .leaf (.look .textStart), .leaf (.chars endSet),
    .repetition (.sequence [.repetition (.leaf (.chars insideSet)) 0 (some 61), .leaf (.chars endSet)]) 0 (some 1),
    .leaf (.look .textEnd)]⟩

/-- The pattern as it is written. -/
theorem read?_label : Pattern.read? "(?i)^[a-z0-9](?:[a-z0-9-]{0,61}[a-z0-9])?$" = .ok labelPattern := by rfl

theorem isAlphanumeric_range {c : Char} (h : isAlphanumeric c = true) :
    c.toNat < 128 ∨ c = '\u017F' ∨ c = '\u212A' := by
  rcases isAlphanumeric_iff.mp h with (hletter | hspecial) | hdigit
  · left
    rcases hletter with ⟨-, hz⟩ | ⟨-, hz⟩ <;> exact Nat.lt_of_le_of_lt hz (by decide)
  · exact .inr hspecial
  · left
    simp only [Char.isDigit, Bool.and_eq_true, decide_eq_true_eq] at hdigit
    exact Nat.lt_of_le_of_lt hdigit.2 (by decide)

theorem between_has {a b d : Char} : (CharSet.between a b).has d = true ↔ a.toNat ≤ d.toNat ∧ d.toNat ≤ b.toNat := by
  simp [CharSet.between, CharSet.has, Runs.contains, Runs.containsValue]

theorem lowerOr_has {others : CharSet} {d : Char} : (lowerOr others).has d = true ↔
    (97 ≤ d.toNat ∧ d.toNat ≤ 122) ∨ (48 ≤ d.toNat ∧ d.toNat ≤ 57) ∨ others.has d = true := by
  rw [lowerOr, CharSet.has, CharSet.has, Bool.or_eq_true, Bool.or_eq_true, between_has, between_has]
  rfl

/-- A label starts and ends with a letter or a digit. -/
theorem endSet_has (c : Char) : endSet.has c = isAlphanumeric c := by
  have hlower (d : Char) (hd : (lowerOr .nothing).has d = true) :
      0 < d.toNat ∧ d.toNat < 128 ∧ ¬(65 ≤ d.toNat ∧ d.toNat ≤ 90) := by
    rcases lowerOr_has.mp hd with h | h | h
    · omega
    · omega
    · cases h
  exact CharSet.folded_has_eq hlower (by decide) (by decide) (by decide) (fun _ => isAlphanumeric_range) c

/-- Between them stand letters, digits and hyphens. -/
theorem insideSet_has (c : Char) : insideSet.has c = (isAlphanumeric c || c == '-') := by
  have hlower (d : Char) (hd : (lowerOr (.union (.single '-') .nothing)).has d = true) :
      0 < d.toNat ∧ d.toNat < 128 ∧ ¬(65 ≤ d.toNat ∧ d.toNat ≤ 90) := by
    rcases lowerOr_has.mp hd with h | h | h
    · omega
    · omega
    · rw [CharSet.has, Bool.or_eq_true, CharSet.single, between_has] at h
      rcases h with h | h
      · have : '-'.toNat = 45 := rfl
        omega
      · cases h
  have hrange (d : Char) (hd : (isAlphanumeric d || d == '-') = true) : d.toNat < 128 ∨ d = '\u017F' ∨ d = '\u212A' := by
    rcases Bool.or_eq_true _ _ ▸ hd with h | h
    · exact isAlphanumeric_range h
    · rw [beq_iff_eq.mp h]
      exact .inl (by decide)
  exact CharSet.folded_has_eq (p := fun d => isAlphanumeric d || d == '-') hlower (by decide) (by decide) (by decide) hrange c

/-! ## Labels -/

/-- A character of a set stands at a place of a text. -/
def Shows (text : Array Char) (s : CharSet) (i : Nat) : Prop := ∃ c, text[i]? = some c ∧ s.has c = true

/-- Steps over characters of a set are a row of them. -/
theorem steps_chars {text : Array Char} {s : CharSet} {n i j : Nat} :
    Steps (Regex.Occurs text (.leaf (.chars s))) n i j ↔ j = i + n ∧ ∀ k < n, Shows text s (i + k) := by
  induction n generalizing i with
  | zero => exact ⟨fun h => ⟨Eq.symm h, fun k hk => absurd hk (Nat.not_lt_zero k)⟩, fun h => h.1.symm⟩
  | succ n ih =>
    simp only [Steps, ih]
    constructor
    · rintro ⟨k, ⟨hfirst, rfl⟩, rfl, hrest⟩
      refine ⟨by omega, fun k hk => ?_⟩
      cases k with
      | zero => exact hfirst
      | succ k => exact (show i + 1 + k = i + (k + 1) by omega) ▸ hrest k (by omega)
    · rintro ⟨rfl, hall⟩
      refine ⟨i + 1, ⟨hall 0 (by omega), rfl⟩, by omega, fun k hk => ?_⟩
      exact (show i + (k + 1) = i + 1 + k by omega) ▸ hall (k + 1) (by omega)

/-- What may follow the first character of a label. -/
theorem occurs_behind_first {text : Array Char} {i j : Nat} :
    Regex.Occurs text
        (.repetition (.sequence [.repetition (.leaf (.chars insideSet)) 0 (some 61), .leaf (.chars endSet)]) 0 (some 1)) i j ↔
      j = i ∨ ∃ n ≤ 61, j = i + n + 1 ∧ (∀ k < n, Shows text insideSet (i + k)) ∧ Shows text endSet (i + n) := by
  rw [Regex.Occurs]
  constructor
  · rintro ⟨m, -, hm, hsteps⟩
    rcases Nat.le_one_iff_eq_zero_or_eq_one.mp (hm 1 rfl) with rfl | rfl
    · exact .inl (Eq.symm hsteps)
    · obtain ⟨l, hl, rfl⟩ := hsteps
      rw [Regex.Occurs, Regex.OccurAll] at hl
      obtain ⟨k, hk, hend⟩ := hl
      rw [Regex.Occurs] at hk
      obtain ⟨n, -, hn, hinside⟩ := hk
      obtain ⟨rfl, hall⟩ := steps_chars.mp hinside
      rw [Regex.OccurAll] at hend
      obtain ⟨l', ⟨hend, rfl⟩, rfl⟩ := hend
      exact .inr ⟨n, hn 61 rfl, rfl, hall, hend⟩
  · rintro (rfl | ⟨n, hn, rfl, hinside, hend⟩)
    · exact ⟨0, le_rfl, fun _ _ => Nat.zero_le _, rfl⟩
    · refine ⟨1, Nat.zero_le _, fun m hm => ?_, i + n + 1, ?_, rfl⟩
      · cases hm
        decide
      · rw [Regex.Occurs, Regex.OccurAll]
        refine ⟨i + n, ?_, ?_⟩
        · rw [Regex.Occurs]
          exact ⟨n, Nat.zero_le _, fun m hm => by cases hm; exact hn, steps_chars.mpr ⟨rfl, hinside⟩⟩
        · rw [Regex.OccurAll]
          exact ⟨i + n + 1, ⟨hend, rfl⟩, rfl⟩

/-- The condition for the start of a text holds at its first place only. -/
theorem occurs_textStart {text : Array Char} {i j : Nat} :
    Regex.Occurs text (.leaf (.look .textStart)) i j ↔ i = 0 ∧ j = 0 := by
  rw [Regex.Occurs]
  constructor
  · rintro ⟨hi, hstart, rfl⟩
    have hnone : (if j = 0 then none else text[j - 1]?) = none := Option.isNone_iff_eq_none.mp hstart
    by_cases hj : j = 0
    · exact ⟨hj, hj⟩
    · rw [if_neg hj, Array.getElem?_eq_none_iff] at hnone
      omega
  · rintro ⟨rfl, rfl⟩
    exact ⟨Nat.zero_le _, rfl, rfl⟩

/-- The condition for the end of a text holds at its last place only. -/
theorem occurs_textEnd {text : Array Char} {i j : Nat} :
    Regex.Occurs text (.leaf (.look .textEnd)) i j ↔ i = text.size ∧ j = text.size := by
  rw [Regex.Occurs]
  constructor
  · rintro ⟨hi, hend, rfl⟩
    have hnone : text[j]? = none := Option.isNone_iff_eq_none.mp hend
    rw [Array.getElem?_eq_none_iff] at hnone
    omega
  · rintro ⟨rfl, rfl⟩
    exact ⟨le_rfl, by simp [Look.holds], rfl⟩

/-- What the pattern finds goes from one end of the text to the other. -/
theorem labelPattern_isIn {text : String} : labelPattern.isIn text = true ↔
    Shows text.toList.toArray endSet 0 ∧ (text.length = 1 ∨ ∃ n ≤ 61, text.length = n + 2 ∧
      (∀ k < n, Shows text.toList.toArray insideSet (1 + k)) ∧ Shows text.toList.toArray endSet (1 + n)) := by
  have hsize : text.toList.toArray.size = text.length := String.length_toList
  rw [Pattern.isIn, Regex.isIn_iff, ← hsize]
  generalize text.toList.toArray = cs
  constructor
  · rintro ⟨i, j, -, hoccurs⟩
    rw [labelPattern, Regex.Occurs, Regex.OccurAll] at hoccurs
    obtain ⟨_, hflags, hoccurs⟩ := hoccurs
    rw [Regex.Occurs, Regex.OccurAll] at hflags
    subst hflags
    simp only [Regex.OccurAll] at hoccurs
    obtain ⟨_, hstart, _, ⟨hfirst, rfl⟩, k, hrest, _, hend, rfl⟩ := hoccurs
    obtain ⟨-, rfl⟩ := occurs_textStart.mp hstart
    obtain ⟨rfl, -⟩ := occurs_textEnd.mp hend
    refine ⟨hfirst, (occurs_behind_first.mp hrest).imp id ?_⟩
    rintro ⟨n, hn, hlength, hshown⟩
    exact ⟨n, hn, by omega, hshown⟩
  · rintro ⟨hfirst, hrest⟩
    have hbehind : Regex.Occurs cs _ (0 + 1) cs.size := occurs_behind_first.mpr <| hrest.imp id
      fun ⟨n, hn, hlength, hshown⟩ => ⟨n, hn, by omega, hshown⟩
    refine ⟨0, cs.size, Nat.zero_le _, ?_⟩
    rw [labelPattern, Regex.Occurs]
    simp only [Regex.OccurAll]
    refine ⟨0, ?_, 0, occurs_textStart.mpr ⟨rfl, rfl⟩, 0 + 1, ⟨hfirst, rfl⟩, cs.size, hbehind, cs.size,
      occurs_textEnd.mpr ⟨rfl, rfl⟩, rfl⟩
    rw [Regex.Occurs, Regex.OccurAll]

theorem shows_toArray {cs : List Char} {s : CharSet} {i : Nat} :
    Shows cs.toArray s i ↔ ∃ c, cs[i]? = some c ∧ s.has c = true := by
  rw [Shows, List.getElem?_toArray]

/-- The tests that make a label. -/
theorem isLabel_iff {cs : List Char} : isLabel cs = true ↔
    (1 ≤ cs.length ∧ cs.length ≤ 63) ∧ (∀ c ∈ cs, isAlphanumeric c = true ∨ c = '-') ∧
      (∃ c, cs.head? = some c ∧ isAlphanumeric c = true) ∧ ∃ c, cs.getLast? = some c ∧ isAlphanumeric c = true := by
  have hgiven (o : Option Char) : (o.map isAlphanumeric).getD false = true ↔ ∃ c, o = some c ∧ isAlphanumeric c = true := by
    cases o <;> simp
  simp only [isLabel, Bool.and_eq_true, decide_eq_true_eq, List.all_eq_true, Bool.or_eq_true, beq_iff_eq, hgiven, and_assoc]

/-- A character of a text is the first one, one of those between, or the last one. -/
theorem mem_cases {cs : List Char} {n : Nat} (hlength : cs.length = n + 2) {c : Char} (hc : c ∈ cs) :
    cs[0]? = some c ∨ (∃ k < n, cs[1 + k]? = some c) ∨ cs[1 + n]? = some c := by
  obtain ⟨k, hk⟩ := List.mem_iff_getElem?.mp hc
  have hin := (List.getElem?_eq_some_iff.mp hk).1
  rcases Nat.eq_zero_or_pos k with rfl | hpos
  · exact .inl hk
  · rw [show k = 1 + (k - 1) by omega] at hk
    rcases Nat.lt_or_ge (k - 1) n with hlt | hge
    · exact .inr (.inl ⟨k - 1, hlt, hk⟩)
    · rw [show k - 1 = n by omega] at hk
      exact .inr (.inr hk)

/-- **A text is a label exactly if the pattern for labels is found in it.** -/
theorem isLabel_eq_isIn (text : String) : isLabel text.toList = labelPattern.isIn text := by
  rw [Bool.eq_iff_iff, labelPattern_isIn, isLabel_iff, ← String.length_toList]
  generalize text.toList = cs
  simp only [shows_toArray, endSet_has, insideSet_has, Bool.or_eq_true, beq_iff_eq]
  rw [List.head?_eq_getElem?, List.getLast?_eq_getElem?]
  constructor
  · rintro ⟨⟨hpos, hlength⟩, hall, hfirst, hlast⟩
    refine ⟨hfirst, ?_⟩
    rcases hpos.eq_or_lt with hone | hmore
    · exact .inl hone.symm
    · refine .inr ⟨cs.length - 2, by omega, by omega, fun k hk => ?_, ?_⟩
      · have hin : 1 + k < cs.length := by omega
        exact ⟨cs[1 + k], List.getElem?_eq_getElem hin, hall _ (List.getElem_mem hin)⟩
      · exact (show cs.length - 1 = 1 + (cs.length - 2) by omega) ▸ hlast
  · rintro ⟨hfirst, hone | ⟨n, hn, hlength, hinside, hlast⟩⟩
    · refine ⟨⟨hone.ge, by omega⟩, fun c hc => ?_, hfirst, by rwa [hone]⟩
      obtain ⟨d, rfl⟩ := List.length_eq_one_iff.mp hone
      obtain ⟨e, he, halnum⟩ := hfirst
      obtain rfl : d = c := (List.mem_singleton.mp hc).symm
      obtain rfl : d = e := Option.some.inj he
      exact .inl halnum
    · refine ⟨⟨by omega, by omega⟩, fun c hc => ?_, hfirst, by rwa [show cs.length - 1 = 1 + n by omega]⟩
      have hfound {i : Nat} {p : Char → Prop} (hi : cs[i]? = some c) (h : ∃ d, cs[i]? = some d ∧ p d) : p c := by
        obtain ⟨d, hd, hp⟩ := h
        obtain rfl : c = d := Option.some.inj (hi.symm.trans hd)
        exact hp
      rcases mem_cases hlength hc with hi | ⟨k, hk, hi⟩ | hi
      · exact .inl (hfound hi hfirst)
      · exact hfound hi (hinside k hk)
      · exact .inl (hfound hi hlast)

/-! ## Labels and host names over letters -/

/-- A label over what counts as a letter: one to 63 letters, digits and hyphens, without a hyphen at either end. -/
structure LabelOver (letter : Char → Prop) (cs : List Char) : Prop where
  length_pos : 1 ≤ cs.length
  length_le : cs.length ≤ 63
  chars : ∀ c ∈ cs, letter c ∨ c.isDigit = true ∨ c = '-'
  first : cs.head? ≠ some '-'
  last : cs.getLast? ≠ some '-'

/-- A host name over what counts as a letter, without the dot that may stand behind it: one to 253 bytes, which are labels
with dots between them. -/
structure NameOver (letter : Char → Prop) (name : List Char) : Prop where
  bytes_pos : 1 ≤ (Text.utf8 name).length
  bytes_le : (Text.utf8 name).length ≤ 253
  labels : ∃ labels, labels ≠ [] ∧ name = Text.joinWith '.' labels ∧ ∀ label ∈ labels, LabelOver letter label

/-- A host name over what counts as a letter, with at most one dot behind it. -/
def HostNameOver (letter : Char → Prop) (cs : List Char) : Prop :=
  ∃ name, (cs = name ∨ cs = name ++ ['.']) ∧ NameOver letter name

theorem isLabel_iff_over {cs : List Char} : isLabel cs = true ↔ LabelOver FoldedLetter cs := by
  have hhyphen : isAlphanumeric '-' = false := by decide
  rw [isLabel_iff]
  constructor
  · rintro ⟨⟨hpos, hlength⟩, hall, ⟨c, hc, hfirst⟩, d, hd, hlast⟩
    refine ⟨hpos, hlength, fun e he => ?_, fun h => ?_, fun h => ?_⟩
    · rw [← or_assoc, ← isAlphanumeric_iff]
      exact hall e he
    · rw [Option.some.inj (hc.symm.trans h), hhyphen] at hfirst
      cases hfirst
    · rw [Option.some.inj (hd.symm.trans h), hhyphen] at hlast
      cases hlast
  · intro h
    have hne : cs ≠ [] := List.length_pos_iff.mp h.length_pos
    have hall (c : Char) (hc : c ∈ cs) : isAlphanumeric c = true ∨ c = '-' := by
      rw [isAlphanumeric_iff, or_assoc]
      exact h.chars c hc
    have hfirst := List.head?_eq_some_head hne
    have hlast := List.getLast?_eq_some_getLast hne
    refine ⟨⟨h.length_pos, h.length_le⟩, hall, ⟨_, hfirst, ?_⟩, _, hlast, ?_⟩
    · exact (hall _ (List.head_mem hne)).resolve_right fun heq => h.first (hfirst.trans (congrArg some heq))
    · exact (hall _ (List.getLast_mem hne)).resolve_right fun heq => h.last (hlast.trans (congrArg some heq))

/-! ## Host names -/

variable {letter letter' : Char → Prop} {cs : List Char}

/-- A label over less letters. -/
theorem LabelOver.mono (h : LabelOver letter cs) (hletter : ∀ c ∈ cs, letter c → letter' c) : LabelOver letter' cs :=
  { h with chars := fun c hc => (h.chars c hc).imp_left (hletter c hc) }

theorem LabelOver.ne_nil (h : LabelOver letter cs) : cs ≠ [] := List.length_pos_iff.mp h.length_pos

/-- The dot is in no label, unless it is a letter. -/
theorem LabelOver.dot_notMem (h : LabelOver letter cs) (hdot : ¬ letter '.') : '.' ∉ cs := fun hc =>
  (h.chars _ hc).elim hdot (by decide)

/-- A host name over less letters. -/
theorem HostNameOver.mono (h : HostNameOver letter cs) (hletter : ∀ c ∈ cs, letter c → letter' c) :
    HostNameOver letter' cs := by
  obtain ⟨name, hcs, hname⟩ := h
  obtain ⟨labels, hne, hjoined, hlabels⟩ := hname.labels
  refine ⟨name, hcs, hname.bytes_pos, hname.bytes_le, labels, hne, hjoined, fun label hlabel => ?_⟩
  refine (hlabels label hlabel).mono fun c hc => hletter c ?_
  have hin : c ∈ name := hjoined ▸ Text.mem_joinWith_of_mem hlabel hc
  rcases hcs with rfl | rfl
  · exact hin
  · exact List.mem_append_left _ hin

/-- The characters of a host name. -/
theorem HostNameOver.chars (h : HostNameOver letter cs) : ∀ c ∈ cs, letter c ∨ c.isDigit = true ∨ c = '-' ∨ c = '.' := by
  obtain ⟨name, hcs, hname⟩ := h
  obtain ⟨labels, -, rfl, hlabels⟩ := hname.labels
  have hall : ∀ c ∈ Text.joinWith '.' labels, letter c ∨ c.isDigit = true ∨ c = '-' ∨ c = '.' := by
    intro c hc
    rcases Text.mem_joinWith hc with rfl | ⟨label, hlabel, hc⟩
    · exact .inr (.inr (.inr rfl))
    · exact ((hlabels label hlabel).chars c hc).imp id (.imp id .inl)
  rcases hcs with rfl | rfl
  · exact hall
  · intro c hc
    rcases List.mem_append.mp hc with hname | hdot
    · exact hall c hname
    · exact .inr (.inr (.inr (List.mem_singleton.mp hdot)))

/-- The tests that make a host name, apart from the dot behind it. -/
theorem nameOver_iff {name : List Char} :
    (!name.isEmpty && (Text.utf8 name).length ≤ 253 && (Text.splitOn '.' name).all isLabel) = true ↔
      NameOver FoldedLetter name := by
  rw [Bool.and_eq_true, Bool.and_eq_true, decide_eq_true_eq, Bool.not_eq_true', List.isEmpty_eq_false_iff, List.all_eq_true]
  constructor
  · rintro ⟨⟨hne, hbytes⟩, hlabels⟩
    exact ⟨Text.utf8_length_pos_iff.mpr hne, hbytes, Text.splitOn '.' name, Text.splitWhere_ne_nil _ _,
      (Text.joinWith_splitOn name).symm, fun label hlabel => isLabel_iff_over.mp (hlabels label hlabel)⟩
  · rintro ⟨hpos, hbytes, labels, hne, rfl, hlabels⟩
    have hsplit := Text.splitOn_joinWith hne fun label hlabel =>
      (hlabels label hlabel).dot_notMem (by simp [FoldedLetter, AsciiLetter])
    refine ⟨⟨Text.utf8_length_pos_iff.mp hpos, hbytes⟩, fun label hlabel => ?_⟩
    rw [hsplit] at hlabel
    exact isLabel_iff_over.mpr (hlabels label hlabel)

/-- A dot that ends a host name is one behind it. -/
theorem NameOver.withoutDot_eq {name : List Char} (h : NameOver letter name) (hdot : ¬ letter '.') :
    withoutDot name = name ∧ withoutDot (name ++ ['.']) = name := by
  obtain ⟨labels, hne, rfl, hlabels⟩ := h.labels
  obtain ⟨label, hlabel, hlast⟩ : ∃ label ∈ labels, (Text.joinWith '.' labels).getLast? = label.getLast? :=
    Text.exists_getLast?_joinWith hne fun label hlabel => (hlabels label hlabel).ne_nil
  constructor
  · rw [withoutDot, if_neg]
    rw [beq_iff_eq, hlast]
    exact fun hend => (hlabels label hlabel).dot_notMem hdot (List.mem_of_getLast? hend)
  · simp [withoutDot]

/-- **What is taken for a host name.** -/
theorem isHostName_iff {text : String} : isHostName text = true ↔ HostNameOver FoldedLetter text.toList := by
  rw [isHostName, nameOver_iff]
  generalize text.toList = cs
  have hdot : ¬ FoldedLetter '.' := by simp [FoldedLetter, AsciiLetter]
  constructor
  · intro h
    refine ⟨withoutDot cs, ?_, h⟩
    unfold withoutDot
    split
    · rename_i hend
      obtain ⟨front, rfl⟩ := List.getLast?_eq_some_iff.mp (beq_iff_eq.mp hend)
      rw [List.dropLast_concat]
      exact .inr rfl
    · exact .inl rfl
  · rintro ⟨name, rfl | rfl, hname⟩
    · rwa [(hname.withoutDot_eq hdot).1]
    · rwa [(hname.withoutDot_eq hdot).2]

/-- Neither of the two characters that fold to letters is in the text. -/
def OnlyAsciiFolds (cs : List Char) : Prop := ∀ c ∈ cs, c ≠ '\u017F' ∧ c ≠ '\u212A'

/-- **The host names over the letters of ASCII are those without the two other characters.** -/
theorem hostNameOver_ascii_iff : HostNameOver AsciiLetter cs ↔ HostNameOver FoldedLetter cs ∧ OnlyAsciiFolds cs := by
  constructor
  · refine fun h => ⟨h.mono fun c _ hc => .inl hc, fun c hc => ?_⟩
    have hchars := h.chars c hc
    constructor
    · rintro rfl
      revert hchars
      simp [AsciiLetter]
    · rintro rfl
      revert hchars
      simp [AsciiLetter]
  · rintro ⟨h, honly⟩
    refine h.mono fun c hc hletter => hletter.resolve_right fun hspecial => ?_
    exact hspecial.elim (honly c hc).1 (honly c hc).2

end HostName

/-! ## The format -/

open HostName

/-- What the format for host names makes of a string. -/
structure HostNameTold (text : String) : Prop where
  /-- It does not complain about host names over the letters of ASCII and the two characters that fold to some. -/
  accepts_iff : FormatRule.hostName (.string text) = none ↔ HostNameOver FoldedLetter text.toList
  /-- It complains about all other strings, and quotes them. -/
  complains : ¬ HostNameOver FoldedLetter text.toList →
    FormatRule.hostName (.string text) = some ("Invalid hostname \"" ++ text ++ "\"")
  /-- So it knows the host names over the letters of ASCII unless one of the two characters is in what it accepts. -/
  ascii_iff : (FormatRule.hostName (.string text) = none ↔ HostNameOver AsciiLetter text.toList) ↔
    (HostNameOver FoldedLetter text.toList → OnlyAsciiFolds text.toList)
  /-- Both names of the format mean the same. -/
  named : ∀ name ∈ ["host-name", "hostname"],
    Formats.standard.complaint? name (.string text) = FormatRule.hostName (.string text)

/-- **The format complains about a string exactly if it is no host name over the letters of ASCII, the long s and the
Kelvin sign.** -/
theorem hostName_complaint (text : String) : HostNameTold text := by
  have haccepts : FormatRule.hostName (.string text) = none ↔ HostNameOver FoldedLetter text.toList := by
    rw [← isHostName_iff, FormatRule.hostName, FormatRule.onText]
    cases isHostName text <;> simp
  refine { accepts_iff := haccepts, complains := fun h => ?_, ascii_iff := ?_, named := fun name hname => ?_ }
  · rw [← isHostName_iff, Bool.not_eq_true] at h
    rw [FormatRule.hostName, FormatRule.onText, h]
    simp [FormatRule.quoting]
  · rw [haccepts, hostNameOver_ascii_iff]
    exact ⟨fun h hname => (h.mp hname).2, fun h => ⟨fun hname => ⟨hname, h hname⟩, And.left⟩⟩
  · simp only [List.mem_cons, List.not_mem_nil, or_false] at hname
    rcases hname with rfl | rfl <;> rfl

/-- **Not all strings that the format accepts are host names over the letters of ASCII.** -/
theorem not_forall_hostName_complaint_ascii :
    ¬ ∀ text : String, FormatRule.hostName (.string text) = none ↔ HostNameOver AsciiLetter text.toList := by
  intro h
  have haccepted : FormatRule.hostName (.string "\u017F") = none := by decide +kernel
  have hascii := hostNameOver_ascii_iff.mp ((h _).mp haccepted)
  exact (hascii.2 '\u017F' (by decide)).1 rfl

end JsonSchema
