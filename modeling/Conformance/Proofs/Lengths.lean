import Conformance.Proofs.Entries
import Conformance.Proofs.Grammar
import Conformance.Proofs.Satisfaction
import Mathlib.Algebra.Field.Rat
import Mathlib.Data.Nat.Cast.Field

/-!
# Bounds on lengths, from the payload to the report

A bound on a length is a relation and a number. `LengthRelation` has the five relations in the order in which
they are tested; what is said of bounds here is said once for all of them. A payload names a number for a relation
(`Json.bound?`), where the numbers of a payload are rationals: integers, and binary64 numbers by their value
(`Binary64.value?`), so that it does not matter how a length is written.

The bounds that are made from a payload are those that it names (`bounds_of_lengthBounds`), and what is found wrong
with an array or a document is one mismatch for each relation that does not hold (`Find.length_eq_map`).
-/

set_option autoImplicit false

namespace Conformance

/-! ## The values of numbers -/

namespace Binary64

/-- The rational that a finite magnitude word stands for. -/
def wordValue (word : Nat) : ℚ := significand word * 2 ^ exponent word

def value? : Binary64 → Option ℚ
  | .nan => none
  | .signed negative magnitude =>
    if magnitude.val < infinityWord then
      some (if negative then -wordValue magnitude.val else wordValue magnitude.val)
    else none

/-- The fraction from which a float is read as an integer has its value. -/
theorem quotient_eq_wordValue (word : Nat) :
    ((quotient word).1 : ℚ) / (quotient word).2 = wordValue word := by
  show ((significand word * 2 ^ (exponent word).toNat : ℕ) : ℚ) / (2 ^ (-exponent word).toNat : ℕ)
    = significand word * 2 ^ exponent word
  rcases Int.le_total 0 (exponent word) with hpos | hneg
  · obtain ⟨n, hn⟩ := Int.eq_ofNat_of_zero_le hpos
    simp [hn]
  · obtain ⟨n, hn⟩ := Int.exists_eq_neg_ofNat hneg
    simp [hn, div_eq_mul_inv]

/-- What is taken for a whole number has just this value. -/
theorem value?_of_toInt? {x : Binary64} {i : Int} (h : x.toInt? = some i) : x.value? = some (i : ℚ) := by
  cases x with
  | nan => cases h
  | signed negative magnitude =>
      simp only [toInt?, Option.ite_none_right_eq_some] at h
      obtain ⟨hfinite, hwhole, hi⟩ := h
      have hden : ((quotient magnitude.val).2 : ℚ) ≠ 0 := by
        exact_mod_cast Nat.pos_iff_ne_zero.mp (Nat.two_pow_pos _)
      have hsize : (((quotient magnitude.val).1 / (quotient magnitude.val).2 : ℕ) : ℚ)
          = wordValue magnitude.val := by
        rw [Nat.cast_div (Nat.dvd_of_mod_eq_zero hwhole) hden, quotient_eq_wordValue]
      rw [value?, if_pos hfinite, ← hsize]
      cases hi
      cases negative with
      | true => rw [if_pos rfl, if_pos rfl, Int.cast_neg, Int.cast_natCast]
      | false => rw [if_neg Bool.false_ne_true, if_neg Bool.false_ne_true, Int.cast_natCast]

end Binary64

def Json.value? : Json → Option ℚ
  | .integer i => some i
  | .float x => x.value?
  | _ => none

/-! ## Relations -/

/-- How a length may have to relate to a bound. -/
inductive LengthRelation where
  | eq
  | lt
  | lte
  | gt
  | gte
  deriving DecidableEq

namespace LengthRelation

def all : List LengthRelation := [.eq, .lt, .lte, .gt, .gte]

def name : LengthRelation → String
  | .eq => "eq"
  | .lt => "lt"
  | .lte => "lte"
  | .gt => "gt"
  | .gte => "gte"

def sign : LengthRelation → String
  | .eq => "=="
  | .lt => "<"
  | .lte => "<="
  | .gt => ">"
  | .gte => ">="

def Holds : LengthRelation → (length bound : Nat) → Prop
  | .eq, length, bound => length = bound
  | .lt, length, bound => length < bound
  | .lte, length, bound => length ≤ bound
  | .gt, length, bound => bound < length
  | .gte, length, bound => bound ≤ length

instance (r : LengthRelation) (length bound : Nat) : Decidable (r.Holds length bound) :=
  match r with
  | .eq => inferInstanceAs (Decidable (length = bound))
  | .lt => inferInstanceAs (Decidable (length < bound))
  | .lte => inferInstanceAs (Decidable (length ≤ bound))
  | .gt => inferInstanceAs (Decidable (bound < length))
  | .gte => inferInstanceAs (Decidable (bound ≤ length))

theorem mem_all (r : LengthRelation) : r ∈ all := by
  cases r <;> decide

theorem name_injective {r s : LengthRelation} (h : r.name = s.name) : r = s :=
  List.inj_on_of_nodup_map (by decide) (mem_all r) (mem_all s) h

theorem exists_name_of_mem {key : String} (h : key ∈ Directive.boundNames) :
    ∃ r : LengthRelation, key = r.name := by
  have hnames : Directive.boundNames = all.map name := rfl
  rw [hnames] at h
  obtain ⟨r, -, hr⟩ := List.mem_map.mp h
  exact ⟨r, hr.symm⟩

end LengthRelation

namespace LengthBounds

def get (b : LengthBounds) : LengthRelation → Option Nat
  | .eq => b.eq
  | .lt => b.lt
  | .lte => b.lte
  | .gt => b.gt
  | .gte => b.gte

def put (b : LengthBounds) (n : Nat) : LengthRelation → LengthBounds
  | .eq => { b with eq := some n }
  | .lt => { b with lt := some n }
  | .lte => { b with lte := some n }
  | .gt => { b with gt := some n }
  | .gte => { b with gte := some n }

theorem get_put (b : LengthBounds) (n : Nat) (r s : LengthRelation) :
    (b.put n r).get s = if r = s then some n else b.get s := by
  cases r <;> cases s <;> rfl

theorem ext_get {b c : LengthBounds} (h : ∀ r, b.get r = c.get r) : b = c := by
  cases b
  cases c
  rw [mk.injEq]
  exact ⟨h .eq, h .lt, h .lte, h .gt, h .gte⟩

def Admits (b : LengthBounds) (length : Nat) : Prop := ∀ r n, b.get r = some n → r.Holds length n

/-- Relation by relation, this is what satisfaction asks of a length. -/
theorem admits_iff {b : LengthBounds} {length : Nat} : b.Admits length ↔ Sat.Bounds b length := by
  constructor
  · intro h
    exact ⟨h .eq, h .lt, h .lte, h .gt, h .gte⟩
  · rintro ⟨heq, hlt, hlte, hgt, hgte⟩ r
    cases r with
    | eq => exact heq
    | lt => exact hlt
    | lte => exact hlte
    | gt => exact hgt
    | gte => exact hgte

/-- Some bound is given, and an exact one stands alone. -/
structure Sound (b : LengthBounds) : Prop where
  exists_bound : ∃ r n, b.get r = some n
  exact_alone : ∀ n, b.get .eq = some n → ∀ r, r ≠ .eq → b.get r = none

/-- Bounds from which a rule was made have passed validation. -/
theorem sound_of_length? {b : LengthBounds} {rule : Rule} (h : Rule.length? b = .ok rule) : b.Sound := by
  have hvalid : b.eq.isSome = !b.hasRelational := Directive.exists_length?_iff.mp ⟨rule, h⟩
  cases heq : b.eq with
  | some n =>
      rw [heq, hasRelational] at hvalid
      simp only [Option.isSome_some, Bool.true_eq, Bool.not_eq_true', Bool.or_eq_false_iff,
        Option.isSome_eq_false_iff, Option.isNone_iff_eq_none] at hvalid
      obtain ⟨⟨⟨hlt, hlte⟩, hgt⟩, hgte⟩ := hvalid
      refine ⟨⟨.eq, n, heq⟩, fun _ _ r hr => ?_⟩
      cases r with
      | eq => exact absurd rfl hr
      | lt => exact hlt
      | lte => exact hlte
      | gt => exact hgt
      | gte => exact hgte
  | none =>
      rw [heq, hasRelational] at hvalid
      simp only [Option.isSome_none, Bool.false_eq, Bool.not_eq_false', Bool.or_eq_true,
        Option.isSome_iff_exists] at hvalid
      refine ⟨?_, fun n hn => ?_⟩
      · rcases hvalid with ((⟨n, hn⟩ | ⟨n, hn⟩) | ⟨n, hn⟩) | ⟨n, hn⟩
        · exact ⟨.lt, n, hn⟩
        · exact ⟨.lte, n, hn⟩
        · exact ⟨.gt, n, hn⟩
        · exact ⟨.gte, n, hn⟩
      · rw [get, heq] at hn
        cases hn

end LengthBounds

/-! ## Payloads -/

/-- The number that a payload names for a relation: a number alone is an exact length, and an object has its
relations by name. Of several members with one name the last one counts. -/
def Json.bound? : Json → LengthRelation → Option ℚ
  | .object members, r => (lookup r.name members.reverse).bind value?
  | j, .eq => j.value?
  | _, _ => none

namespace Directive

/-- A length is the number that stands in the payload, whether it is written as an integer or a float. -/
theorem value?_of_lengthNumber {j : Json} {n : Nat} (h : lengthNumber j = .ok n) :
    j.value? = some (n : ℚ) := by
  have hnatural : ∀ {i : Int}, 0 ≤ i → ((i.toNat : ℕ) : ℚ) = (i : ℚ) := by
    intro i hi
    exact_mod_cast congrArg (Int.cast : Int → ℚ) (Int.toNat_of_nonneg hi)
  cases j with
  | integer i =>
      rw [lengthNumber] at h
      split at h
      · rename_i hi
        cases h
        exact congrArg some (hnatural hi).symm
      · cases h
  | float x =>
      rw [lengthNumber] at h
      cases hwhole : x.toInt? with
      | none =>
          rw [hwhole] at h
          cases h
      | some i =>
          rw [hwhole] at h
          dsimp only at h
          split at h
          · cases h
          · rename_i hi
            split at h
            · cases h
            · cases h
              rw [hnatural (Int.not_lt.mp hi)]
              exact Binary64.value?_of_toInt? hwhole
  | _ => cases h

theorem setBound_name (b : LengthBounds) (r : LengthRelation) (j : Json) :
    setBound b (r.name, j) = lengthNumber j >>= fun n => .ok (b.put n r) := by
  cases r <;> rfl

/-- A member sets the bound that it names, and no other. -/
theorem get_setBound {b b' : LengthBounds} {m : String × Json} (h : setBound b m = .ok b')
    (r : LengthRelation) : b'.get r = if m.1 = r.name then (lengthNumber m.2).toOption else b.get r := by
  obtain ⟨key, j⟩ := m
  obtain ⟨named, hkey⟩ := LengthRelation.exists_name_of_mem (setBound_eq_ok h).1.1
  obtain rfl : key = named.name := hkey
  rw [setBound_name, bind_eq_ok_iff] at h
  obtain ⟨n, hn, hb'⟩ := h
  cases hb'
  have hname : named = r ↔ named.name = r.name :=
    ⟨congrArg LengthRelation.name, LengthRelation.name_injective⟩
  simp only [LengthBounds.get_put, hn, hname]
  rfl

/-- The last member with a name sets the bound; without one it stays as it was. -/
theorem get_setBounds {members : List (String × Json)} {b b' : LengthBounds}
    (h : members.foldlM setBound b = .ok b') (r : LengthRelation) :
    b'.get r = match lookup r.name members.reverse with
      | some j => (lengthNumber j).toOption
      | none => b.get r := by
  induction members generalizing b with
  | nil =>
      cases h
      rfl
  | cons m rest ih =>
      rw [List.foldlM_cons, bind_eq_ok_iff] at h
      obtain ⟨between, hfirst, hrest⟩ := h
      -- reversed, the first member comes last: it counts only if no later one has the name
      rw [ih hrest, List.reverse_cons, List.lookup_append]
      cases lookup r.name rest.reverse with
      | some j => rfl
      | none =>
          obtain ⟨name, j⟩ := m
          rw [get_setBound hfirst r, Option.none_or]
          by_cases hname : name = r.name
          · rw [if_pos hname, hname, List.lookup_cons_self]
          · rw [if_neg hname, lookup_cons_of_ne hname, List.lookup_nil]

/-- The bounds that are made from a payload are those that it names. -/
theorem bounds_of_lengthBounds {j : Json} {b : LengthBounds} (h : lengthBounds j = .ok b)
    (r : LengthRelation) : (b.get r).map Nat.cast = j.bound? r := by
  have hexact : ∀ {j : Json} {n : Nat}, lengthNumber j = .ok n →
      ((LengthBounds.exactly n).get r).map Nat.cast = if r = .eq then j.value? else none := by
    intro j n hn
    rw [value?_of_lengthNumber hn]
    cases r <;> rfl
  cases j with
  | integer i =>
      obtain ⟨n, hn, hb⟩ := bind_eq_ok_iff.mp h
      cases hb
      rw [hexact hn]
      cases r <;> rfl
  | float x =>
      obtain ⟨n, hn, hb⟩ := bind_eq_ok_iff.mp h
      cases hb
      rw [hexact hn]
      cases r <;> rfl
  | object members =>
      rw [get_setBounds h r, Json.bound?]
      cases hfound : lookup r.name members.reverse with
      | none => cases r <;> rfl
      | some j =>
          have hmem : (r.name, j) ∈ members := List.mem_reverse.mp (mem_of_lookup hfound)
          obtain ⟨-, n, hn⟩ := (setBounds_eq_ok h).1 _ hmem
          rw [Option.bind_some, value?_of_lengthNumber hn]
          show Option.map Nat.cast (lengthNumber j).toOption = _
          rw [show lengthNumber j = .ok n from hn]
          rfl
  | _ => cases h

/-- The order of the members makes no difference as long as their names are distinct. -/
theorem lengthBounds_perm {members members' : List (String × Json)}
    (hnames : (members.map Prod.fst).Nodup) (hperm : members.Perm members') {b : LengthBounds}
    (h : lengthBounds (.object members) = .ok b) : lengthBounds (.object members') = .ok b := by
  obtain ⟨b', hb'⟩ := exists_setBounds (fun m hm => (setBounds_eq_ok h).1 m (hperm.mem_iff.mpr hm)) {}
  -- where no name is repeated, the order of a list makes no difference to what is found in it
  have hsame : ∀ key, lookup key members'.reverse = lookup key members.reverse := by
    intro key
    have hnames' : (members'.reverse.map Prod.fst).Nodup := by
      rw [List.map_reverse, List.nodup_reverse]
      exact (hperm.map Prod.fst).nodup_iff.mp hnames
    cases hfound : lookup key members.reverse with
    | some j =>
        refine lookup_of_mem hnames' (List.mem_reverse.mpr (hperm.mem_iff.mp ?_))
        exact List.mem_reverse.mp (mem_of_lookup hfound)
    | none =>
        refine List.lookup_eq_none_iff.mpr fun m hm => List.lookup_eq_none_iff.mp hfound m ?_
        exact List.mem_reverse.mpr (hperm.mem_iff.mpr (List.mem_reverse.mp hm))
  have hbounds : b' = b := LengthBounds.ext_get fun r => by
    rw [get_setBounds hb' r, get_setBounds h r, hsame]
  exact hbounds ▸ hb'

end Directive

/-! ## Findings -/

/-- The bounds that a length does not meet, in the order in which they are tested. -/
def LengthBounds.violated (b : LengthBounds) (length : Nat) : List (LengthRelation × Nat) :=
  LengthRelation.all.flatMap fun r =>
    match b.get r with
    | some n => if r.Holds length n then [] else [(r, n)]
    | none => []

/-- The mismatch for a bound that a length does not meet. -/
def LengthRelation.mismatch (length : Nat) : LengthRelation × Nat → Mismatch
  | (r, n) => ⟨.root, "$length " ++ r.name ++ " failed: got " ++ toString length ++ ", expected " ++ r.sign ++
      " " ++ toString n⟩

/-- The table of tests has the five relations. -/
theorem lengthTests_eq_map (b : LengthBounds) : Check.lengthTests b
    = LengthRelation.all.map fun r => ⟨r.name, r.sign, b.get r, fun length n => decide (r.Holds length n)⟩ :=
  rfl

/-- One mismatch for each bound that is not met, and in their order. -/
theorem Find.length_eq_map (b : LengthBounds) {a : Value} {n : Nat} (hlength : a.length? = some n) :
    Find.length b a = (b.violated n).map (LengthRelation.mismatch n) := by
  have hbound : ∀ r : LengthRelation,
      Find.lengthBound n ⟨r.name, r.sign, b.get r, fun length m => decide (r.Holds length m)⟩
        = (match b.get r with
          | some m => if r.Holds n m then [] else [(r, m)]
          | none => []).map (LengthRelation.mismatch n) := by
    intro r
    rw [Find.lengthBound]
    cases b.get r with
    | none => rfl
    | some m => by_cases hholds : r.Holds n m <;> simp [hholds, LengthRelation.mismatch, Find.here]
  rw [Find.length, hlength]
  show (Check.lengthTests b).flatMap (Find.lengthBound n) = _
  rw [lengthTests_eq_map, List.flatMap_map, LengthBounds.violated, List.map_flatMap]
  exact List.flatMap_congr fun r _ => hbound r

/-- A comparison that stops at the first mismatch has only this one to tell. -/
theorem mismatches_verdict_false (ms : List Mismatch) : (verdict false ms).mismatches = ms.take 1 := by
  cases ms with
  | nil => rfl
  | cons m rest => rfl

/-! ## Testers -/

/-- **Lengths are held against the bounds of the payload**, from one end to the other. What the constructor makes
of a payload that it accepts is a rule with just the bounds that the payload names, in whatever order; there is
one at least, and an exact one stands alone. A value is accepted if it is an array or a document whose number of
elements or entries meets them all. For any other array or document the report has a mismatch for each bound
that is not met, in the order of the relations; a comparison that stops has the first of these. -/
theorem Tester.length_bounds {c : Constructor} (hfind : Registry.builtin.find? "$length" = some c)
    {label : Label} {p : Payload} {e : Expected} (haccepts : c label p = .ok e) :
    ∃ bounds : LengthBounds, e = .rule label (.length bounds) ∧
      (∀ r, (bounds.get r).map Nat.cast = p.json.bound? r) ∧
      (∀ members members', p.json = .object members → (members.map Prod.fst).Nodup →
        members.Perm members' → ∀ q : Payload, q.json = .object members' → c label q = .ok e) ∧
      bounds.Sound ∧
      ∀ (t : Tester) (a : Value),
        ((t.test e a).1 = .ok () ↔
          (∃ items, a = .array items ∧ bounds.Admits items.length) ∨
          ∃ entries, a = .document entries ∧ bounds.Admits entries.length) ∧
        ∀ n, a.length? = some n →
          let report := (bounds.violated n).map (LengthRelation.mismatch n)
          (t.test e a).1.mismatches = if t.options.collectAll then report else report.take 1 := by
  obtain rfl : Directive.ofJson (fun json => do Rule.length? (← Directive.lengthBounds json)) = c :=
    Option.some.inj hfind
  obtain ⟨rule, hbuild, rfl⟩ := Directive.ofJson_eq_ok_iff.mp haccepts
  obtain ⟨bounds, hbounds, hrule⟩ := bind_eq_ok_iff.mp hbuild
  obtain ⟨-, hvalid, hmade⟩ := bind_eq_ok_iff.mp hrule
  cases hmade
  refine ⟨bounds, rfl, Directive.bounds_of_lengthBounds hbounds, ?_,
    LengthBounds.sound_of_length? hrule, fun t a => ⟨?_, fun n hn => ?_⟩⟩
  · intro members members' hmembers hnames hperm q hq
    rw [hmembers] at hbounds
    have hbounds' := Directive.lengthBounds_perm hnames hperm hbounds
    -- the constructor looks at the payload as it was written, and only for the bounds in it
    refine Directive.ofJson_eq_ok_iff.mpr ⟨_, ?_, rfl⟩
    rw [hq]
    exact bind_eq_ok_iff.mpr ⟨bounds, hbounds', hrule⟩
  · rw [Tester.test_eq_verdict, verdict_eq_ok_iff]
    show Find.length bounds a = [] ↔ _
    rw [length_eq_nil_iff]
    cases a with
    | array items => simp [Tree.length?, LengthBounds.admits_iff]
    | document entries => simp [Tree.length?, LengthBounds.admits_iff]
    | _ => simp [Tree.length?]
  · rw [Tester.test_eq_verdict]
    show (verdict t.options.collectAll (Find.length bounds a)).mismatches = _
    rw [Find.length_eq_map bounds hn]
    cases t.options.collectAll with
    | true => exact mismatches_verdict_true _
    | false => exact mismatches_verdict_false _

/-- Bounds that no length meets, one of them written as a binary64 number, and a document that repeats a key. -/
theorem length_bounds_contradictory :
    let members : List (String × Json) := [("gte", .integer 4), ("lt", .float (.ofInt 2))]
    let e : Expected := .rule [0] (.length { lt := some 2, gte := some 4 })
    let a : Value := .document [("k", .null), ("k", .null)]
    let failed : List Mismatch := [⟨.root, "$length lt failed: got 2, expected < 2"⟩,
      ⟨.root, "$length gte failed: got 2, expected >= 4"⟩]
    ∃ c, Registry.builtin.find? "$length" = some c ∧
      c [0] (Registry.builtin.payload [0] (.object members)) = .ok e ∧
      c [0] (Registry.builtin.payload [0] (.object members.reverse)) = .ok e ∧
      ((Tester.ofOptions { collectAll := true }).test e a).1.mismatches = failed ∧
      ((Tester.ofOptions {}).test e a).1.mismatches = failed.take 1 := by
  intro members e a failed
  have haccepts : Directive.ofJson (fun json => do Rule.length? (← Directive.lengthBounds json)) [0]
      (Registry.builtin.payload [0] (.object members)) = .ok e := rfl
  obtain ⟨bounds, he, -, horder, -, htest⟩ := Tester.length_bounds rfl haccepts
  obtain rfl : ({ lt := some 2, gte := some 4 } : LengthBounds) = bounds := by
    rw [Tree.rule.injEq, Rule.length.injEq] at he
    exact he.2
  refine ⟨_, rfl, haccepts, ?_, (htest _ a).2 2 rfl, (htest _ a).2 2 rfl⟩
  exact horder members members.reverse rfl (by decide) members.reverse_perm.symm _ rfl

end Conformance
