import JsonSchema.Instance
import JsonSchema.Proofs.Reference.Place

/-!
# Values that differ in the order of members

The members of an object are a list, since texts and reports follow their order. Two values may differ in nothing but
this order, at any depth.

## What is here

* `Json.Reordered` — values that differ in nothing but the order of members. `Json.Reordered.sameAs_eq` — **they are
  equal to the same values**.
* `Members.Reordered` — what is known of two lists of members then: as many members, and to each one a member of the
  other list with the same key and a value that differs in nothing but order.
* `Instance.Reordered` — the same relation between instances. No object in them repeats a key.
-/

set_option autoImplicit false

namespace JsonSchema

/-! ## Values -/

mutual

/-- Values that differ in nothing but the order of members, at any depth. -/
inductive Json.Reordered : Json → Json → Prop where
  | null : Json.Reordered .null .null
  | bool (b : Bool) : Json.Reordered (.bool b) (.bool b)
  | integer (n : Int) : Json.Reordered (.integer n) (.integer n)
  | real (x : Binary64) : Json.Reordered (.real x) (.real x)
  | string (text : String) : Json.Reordered (.string text) (.string text)
  | array {es fs : List Json} (h : Json.EachReordered es fs) : Json.Reordered (.array es) (.array fs)
  | object {ms ns ls : Members} (h : Json.EachMemberReordered ms ns) (hperm : ns.Perm ls) :
    Json.Reordered (.object ms) (.object ls)

/-- Sequences that do so position by position. -/
inductive Json.EachReordered : List Json → List Json → Prop where
  | nil : Json.EachReordered [] []
  | cons {e f : Json} {es fs : List Json} (h : Json.Reordered e f) (hs : Json.EachReordered es fs) :
    Json.EachReordered (e :: es) (f :: fs)

/-- Members that do so position by position, under the same keys. -/
inductive Json.EachMemberReordered : Members → Members → Prop where
  | nil : Json.EachMemberReordered [] []
  | cons {key : String} {v w : Json} {ms ns : Members} (h : Json.Reordered v w) (hs : Json.EachMemberReordered ms ns) :
    Json.EachMemberReordered ((key, v) :: ms) ((key, w) :: ns)

end

namespace Json

theorem EachMemberReordered.length_eq : ∀ {ms ns : Members}, EachMemberReordered ms ns → ms.length = ns.length
  | _, _, .nil => rfl
  | _, _, .cons _ hs => congrArg (· + 1) hs.length_eq

theorem EachMemberReordered.keys_eq :
    ∀ {ms ns : Members}, EachMemberReordered ms ns → ms.map (·.1) = ns.map (·.1)
  | _, _, .nil => rfl
  | _, _, .cons _ hs => congrArg (_ :: ·) hs.keys_eq

/-! ### Equality -/

theorem sameAs_array (es fs : List Json) : sameAs (.array es) (.array fs) = sameElements es fs := rfl

theorem sameAs_object (ms ns : Members) :
    sameAs (.object ms) (.object ns) = (ms.length == ns.length && sameMembers ms ns) := rfl

theorem sameElements_cons (e f : Json) (es fs : List Json) :
    sameElements (e :: es) (f :: fs) = (sameAs e f && sameElements es fs) := rfl

theorem sameMembers_cons (key : String) (v : Json) (ms ns : Members) :
    sameMembers ((key, v) :: ms) ns = ((find? ns key).any v.sameAs && sameMembers ms ns) := by
  rw [sameMembers]
  cases find? ns key <;> rfl

/-- Members are equal to others if each of them is. -/
theorem sameMembers_eq_all (ms ns : Members) : sameMembers ms ns = ms.all fun m => (find? ns m.1).any m.2.sameAs := by
  induction ms with
  | nil => rfl
  | cons m ms ih => rw [sameMembers_cons, List.all_cons, ih]

mutual

/-- **Values that differ in nothing but the order of members are equal to the same values.** -/
theorem Reordered.sameAs_eq : ∀ {j k : Json}, j.Reordered k → ∀ c, j.sameAs c = k.sameAs c
  | _, _, .null, _ => rfl
  | _, _, .bool _, _ => rfl
  | _, _, .integer _, _ => rfl
  | _, _, .real _, _ => rfl
  | _, _, .string _, _ => rfl
  | _, _, .array h, c => by
    cases c with
    | array cs => rw [sameAs_array, sameAs_array, h.sameElements_eq cs]
    | _ => rfl
  | _, _, .object h hperm, c => by
    cases c with
    | object cs =>
      rw [sameAs_object, sameAs_object, h.length_eq, hperm.length_eq, h.sameMembers_eq cs, sameMembers_eq_all,
        sameMembers_eq_all, hperm.all_eq]
    | _ => rfl

theorem EachReordered.sameElements_eq :
    ∀ {es fs : List Json}, EachReordered es fs → ∀ cs, sameElements es cs = sameElements fs cs
  | _, _, .nil, _ => rfl
  | _, _, .cons h hs, [] => rfl
  | _, _, .cons h hs, c :: cs => by rw [sameElements_cons, sameElements_cons, h.sameAs_eq c, hs.sameElements_eq cs]

theorem EachMemberReordered.sameMembers_eq :
    ∀ {ms ns : Members}, EachMemberReordered ms ns → ∀ cs, sameMembers ms cs = sameMembers ns cs
  | _, _, .nil, _ => rfl
  | _, _, .cons h hs, cs => by
    rw [sameMembers_cons, sameMembers_cons, hs.sameMembers_eq cs, funext h.sameAs_eq]

end

end Json

/-! ## Instances -/

/-- Instances that differ in nothing but the order of members. No object in the first one repeats a key. -/
inductive Instance.Reordered : Instance → Instance → Prop where
  | absent : Instance.Reordered .absent .absent
  | present {j k : Json} (hd : j.DistinctKeys) (h : j.Reordered k) : Instance.Reordered (.present j) (.present k)

namespace Instance.Reordered

variable {i j : Instance}

theorem isAbsent_eq (h : i.Reordered j) : i.isAbsent = j.isAbsent := by
  cases h <;> rfl

/-- They are equal to the same values. -/
theorem sameAs_eq (h : i.Reordered j) (c : Json) : i.sameAs c = j.sameAs c := by
  cases h with
  | absent => rfl
  | present _ h => exact h.sameAs_eq c

/-- They are of the same types. -/
theorem accepts_eq (h : i.Reordered j) (name : TypeName) (mode : Mode) : name.accepts mode i = name.accepts mode j := by
  cases h with
  | absent => rfl
  | present _ h => cases h <;> first | rfl | cases name <;> rfl

end Instance.Reordered

/-! ## Elements and members -/

/-- Each element of the first of two related lists is related to one of the second. -/
theorem forall₂_exists_right {A B : Type} {R : A → B → Prop} {xs : List A} {ys : List B} (h : List.Forall₂ R xs ys) :
    ∀ x ∈ xs, ∃ y ∈ ys, R x y := by
  induction h with
  | nil => exact fun x hx => absurd hx List.not_mem_nil
  | cons hxy _ ih =>
    intro x hx
    rcases List.mem_cons.mp hx with rfl | hx
    · exact ⟨_, List.mem_cons_self, hxy⟩
    · obtain ⟨y, hy, hxy⟩ := ih x hx
      exact ⟨y, List.mem_cons_of_mem _ hy, hxy⟩

namespace Json

theorem EachReordered.related : ∀ {es fs : List Json}, EachReordered es fs → DistinctKeys.elements es →
    List.Forall₂ (fun e f => Instance.Reordered (.present e) (.present f)) es fs
  | _, _, .nil, _ => .nil
  | _, _, .cons h hs, hd => .cons (.present hd.1 h) (hs.related hd.2)

theorem EachMemberReordered.related : ∀ {ms ns : Members}, EachMemberReordered ms ns → DistinctKeys.members ms →
    List.Forall₂ (fun m n => m.1 = n.1 ∧ Instance.Reordered (.present m.2) (.present n.2)) ms ns
  | _, _, .nil, _ => .nil
  | _, _, .cons h hs, hd => .cons ⟨rfl, .present hd.1 h⟩ (hs.related hd.2)

end Json

/-- Lists of members that differ in nothing but order: there are as many members, and to each member there is one with
the same key and a value that differs in nothing but order. -/
structure Members.Reordered (ms ns : Members) : Prop where
  length_eq : ms.length = ns.length
  nodup : (ms.map (·.1)).Nodup
  nodup' : (ns.map (·.1)).Nodup
  forth : ∀ m ∈ ms, ∃ n ∈ ns, m.1 = n.1 ∧ (Instance.present m.2).Reordered (.present n.2)
  back : ∀ n ∈ ns, ∃ m ∈ ms, m.1 = n.1 ∧ (Instance.present m.2).Reordered (.present n.2)

namespace Members.Reordered

variable {ms ns ls : Members}

/-- The members of objects that differ in nothing but order do so. -/
theorem of_object (hd : (Json.object ms).DistinctKeys) (h : Json.EachMemberReordered ms ls) (hperm : ls.Perm ns) :
    Members.Reordered ms ns where
  length_eq := h.length_eq.trans hperm.length_eq
  nodup := hd.1
  nodup' := (hperm.map _).nodup (h.keys_eq ▸ hd.1)
  forth := fun m hm =>
    have ⟨n, hn, hmn⟩ := forall₂_exists_right (h.related hd.2) m hm
    ⟨n, hperm.mem_iff.mp hn, hmn⟩
  back := fun n hn => forall₂_exists_right (h.related hd.2).flip n (hperm.mem_iff.mpr hn)

variable (h : Members.Reordered ms ns)

include h

theorem hasKey_eq (key : String) : Json.hasKey ms key = Json.hasKey ns key := by
  rw [Json.hasKey, Json.hasKey, Bool.eq_iff_iff, List.any_eq_true, List.any_eq_true]
  constructor
  · rintro ⟨m, hm, hkey⟩
    obtain ⟨n, hn, heq, -⟩ := h.forth m hm
    exact ⟨n, hn, heq ▸ hkey⟩
  · rintro ⟨n, hn, hkey⟩
    obtain ⟨m, hm, heq, -⟩ := h.back n hn
    exact ⟨m, hm, heq ▸ hkey⟩

/-- What stands under a key, or its absence, differs in nothing but order. -/
theorem find? (key : String) :
    (Instance.ofOption (Json.find? ms key)).Reordered (Instance.ofOption (Json.find? ns key)) := by
  cases hv : Json.find? ms key with
  | some v =>
    obtain ⟨⟨_, w⟩, hn, rfl, hvw⟩ := h.forth _ (Json.mem_of_find? hv)
    rw [Json.find?_of_mem h.nodup' hn]
    exact hvw
  | none =>
    cases hw : Json.find? ns key with
    | none => exact .absent
    | some w =>
      obtain ⟨⟨_, v⟩, hm, rfl, -⟩ := h.back _ (Json.mem_of_find? hw)
      rw [Json.find?_of_mem h.nodup hm] at hv
      cases hv

end Members.Reordered

end JsonSchema
