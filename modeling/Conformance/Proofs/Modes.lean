import Conformance.Proofs.Satisfaction

/-!
# The two modes

A tester either stops at the first mismatch or collects all of them. The two modes accept the same values,
and where they fail the mismatch of the first is at or above the head of the list of the second. It is that
head itself unless the comparison can come to an `or`: an `or` that fails speaks for itself when it has to
stop, and lets its alternatives speak when it does not.

`Leads R` relates what is found in the two modes: both find nothing, or the heads of what they find are in
the relation `R`. The induction over the tree is done once, for any `R`, and used with the prefix order on
paths and with equality.
-/

set_option autoImplicit false

namespace Conformance

/-- The comparison can come to an `or` whose mismatches it hands on. -/
inductive OrReachable : Expected → Prop where
  | here (label : Label) (es : List Expected) : OrReachable (.rule label (.or es))
  | entry {entries : List (String × Expected)} {entry : String × Expected} (hmem : entry ∈ entries)
      (h : OrReachable entry.2) : OrReachable (.document entries)
  | element {items : List Expected} {e : Expected} (hmem : e ∈ items) (h : OrReachable e) :
      OrReachable (.array items)
  | operand (label : Label) {es : List Expected} {e : Expected} (hmem : e ∈ es) (h : OrReachable e) :
      OrReachable (.rule label (.and es))
  | payload (label : Label) {e : Expected} (h : OrReachable e) : OrReachable (.rule label (.equal e))

theorem orReachable_document_iff {entries : List (String × Expected)} :
    OrReachable (.document entries) ↔ ∃ entry ∈ entries, OrReachable entry.2 := by
  constructor
  · intro h
    cases h with
    | entry hmem h => exact ⟨_, hmem, h⟩
  · rintro ⟨entry, hmem, h⟩
    exact .entry hmem h

/-! ## Lists that agree up to their heads -/

/-- Both lists are empty, or their heads are related. -/
inductive Leads (R : Mismatch → Mismatch → Prop) : List Mismatch → List Mismatch → Prop where
  | nil : Leads R [] []
  | cons {m n : Mismatch} (ms ns : List Mismatch) (h : R m n) : Leads R (m :: ms) (n :: ns)

/-- The relation is reflexive, and a path put in front of both sides does not break it. -/
structure Steady (R : Mismatch → Mismatch → Prop) : Prop where
  refl : ∀ m, R m m
  under : ∀ p m n, R m n → R (m.under p) (n.under p)

theorem steady_eq : Steady Eq where
  refl := fun _ => rfl
  under := fun p _ _ h => congrArg (Mismatch.under p) h

/-- The place of the first mismatch is the place of the second or above it. -/
def AtOrAbove (m n : Mismatch) : Prop := m.path.segments <+: n.path.segments

theorem steady_atOrAbove : Steady AtOrAbove where
  refl := fun m => List.prefix_refl m.path.segments
  under := fun p _ _ h => (List.prefix_append_right_inj p.segments).mpr h

namespace Leads

variable {R : Mismatch → Mismatch → Prop}

theorem refl (hR : Steady R) (ms : List Mismatch) : Leads R ms ms := by
  cases ms with
  | nil => exact .nil
  | cons m rest => exact .cons rest rest (hR.refl m)

theorem append {ms ns ms' ns' : List Mismatch} (h : Leads R ms ns) (h' : Leads R ms' ns') :
    Leads R (ms ++ ms') (ns ++ ns') := by
  cases h with
  | nil => exact h'
  | cons ms ns hhead => exact .cons (ms ++ ms') (ns ++ ns') hhead

/-- The relation survives one more segment in front of both lists. -/
theorem below (hR : Steady R) (s : Segment) {ms ns : List Mismatch} (h : Leads R ms ns) :
    Leads R (below s ms) (below s ns) := by
  cases h with
  | nil => exact .nil
  | cons ms ns hhead => exact .cons _ _ (hR.under _ _ _ hhead)

theorem entry (hR : Steady R) (key : String) (actual : List (String × Value)) {f g : Finder}
    (h : ∀ v, Leads R (f v) (g v)) : Leads R (Find.entry actual (key, f)) (Find.entry actual (key, g)) := by
  rw [Find.entry, Find.entry]
  cases lookup key actual with
  | some v => exact .below hR (.key key) (h v)
  | none => exact .refl hR (Find.missing key)

/-- Only the first findings count, so that it is enough to relate the lists piece by piece. -/
theorem flatMap {α : Type} {l : List α} {f g : α → List Mismatch} (h : ∀ x ∈ l, Leads R (f x) (g x)) :
    Leads R (l.flatMap f) (l.flatMap g) := by
  induction l with
  | nil => exact .nil
  | cons x rest ih =>
      rw [List.flatMap_cons, List.flatMap_cons]
      have hfirst : Leads R (f x) (g x) := h x List.mem_cons_self
      exact hfirst.append (ih fun y hy => h y (List.mem_cons_of_mem x hy))

/-- Lists that agree up to their heads are empty together. -/
theorem eq_nil_iff {ms ns : List Mismatch} (h : Leads R ms ns) : ms = [] ↔ ns = [] := by
  cases h with
  | nil => exact Iff.rfl
  | cons ms ns hhead => simp

end Leads

/-! ## Rules that only ask whether an operand accepts

These find the same in both modes, since operands accept the same values. -/

/-- A tree accepts the same values in both modes, by what satisfaction means for either. -/
theorem accepts_findTree {e : Expected} (h : Builtin e) :
    Find.accepts (findTree false e) = Find.accepts (findTree true e) := by
  funext v
  rw [Bool.eq_iff_iff, accepts_iff, accepts_iff, findTree_eq_nil_iff h, findTree_eq_nil_iff h]

section Accepts

variable {es : List Expected} {f g : Expected → Finder} {text : Expected → String}

/-- What is claimed depends on what is accepted, not on what is found in the rest. -/
theorem claim_congr {f g : Finder} (h : Find.accepts f = Find.accepts g) (values : List Value) :
    Find.claim f values = Find.claim g values := by
  induction values with
  | nil => rfl
  | cons v rest ih => rw [Find.claim, Find.claim, h, ih]

theorem claimAll_congr (h : ∀ e ∈ es, Find.accepts (f e) = Find.accepts (g e)) (values : List Value) :
    Find.claimAll (es.map fun e => (text e, f e)) values
      = Find.claimAll (es.map fun e => (text e, g e)) values := by
  induction es generalizing values with
  | nil => rfl
  | cons e rest ih =>
      have hfirst : Find.claim (f e) values = Find.claim (g e) values :=
        claim_congr (h e List.mem_cons_self) values
      have hrest := ih fun e' he' => h e' (List.mem_cons_of_mem e he')
      rw [List.map_cons, List.map_cons, Find.claimAll, Find.claimAll, hfirst]
      cases Find.claim (g e) values with
      | none => rfl
      | some left => exact hrest left

theorem any_accepts_congr (h : ∀ e ∈ es, Find.accepts (f e) = Find.accepts (g e)) (a : Value) :
    (es.any fun e => Find.accepts (f e) a) = es.any fun e => Find.accepts (g e) a := by
  induction es with
  | nil => rfl
  | cons e rest ih =>
      rw [List.any_cons, List.any_cons, h e List.mem_cons_self,
        ih fun e' he' => h e' (List.mem_cons_of_mem e he')]

theorem inSet_congr (h : ∀ e ∈ es, Find.accepts (f e) = Find.accepts (g e)) (a : Value) :
    Find.inSet (es.map fun e => (text e, f e)) a = Find.inSet (es.map fun e => (text e, g e)) a := by
  have hany := any_accepts_congr h a
  simp only [Find.inSet, List.any_map, List.map_map, Function.comp_def, hany]

end Accepts

/-! ## What the modes find -/

/-- In the two modes a comparison finds nothing or something together, and the heads of what it finds are
related by any steady relation that lets an `or` which the comparison comes to speak for itself. -/
theorem findTree_leads {R : Mismatch → Mismatch → Prop} (hR : Steady R) {e : Expected}
    (h : Builtin e) (hor : OrReachable e → ∀ message n, R ⟨.root, message⟩ n) (a : Value) :
    Leads R (findTree false e a) (findTree true e a) := by
  induction h generalizing a with
  | @array items hitems ih =>
      cases a with
      | array values =>
          by_cases hlength : items.length = values.length
          · rw [findTree_array false hlength, findTree_array true hlength]
            refine .flatMap ?_
            rintro ⟨⟨e, v⟩, i⟩ hmem
            have he : e ∈ items := (List.of_mem_zip (List.fst_mem_of_mem_zipIdx hmem)).1
            exact .below hR _ (ih e he (fun hreach => hor (.element he hreach)) v)
          · rw [findTree_array_length false hlength, findTree_array_length true hlength]
            exact .refl hR _
      | _ => exact .refl hR _
  | @document entries hentries ih =>
      cases a with
      | document actual =>
          rw [findTree_document, findTree_document]
          refine .flatMap fun entry hmem => .entry hR entry.1 actual fun v => ?_
          exact ih entry hmem (fun hreach => hor (.entry hmem hreach)) v
      | _ => exact .refl hR _
  | @strict label entries hentries ih =>
      cases a with
      | document actual =>
          rw [findTree_strict, findTree_strict]
          refine .append (.flatMap fun entry hmem => .entry hR entry.1 actual fun v => ?_) (.refl hR _)
          exact ih entry hmem (fun hreach => hor (.payload label (.entry hmem hreach))) v
      | _ => exact .refl hR _
  | same label hshape _ ih =>
      rw [findTree_same hshape, findTree_same hshape]
      exact ih (fun hreach => hor (.payload label hreach)) a
  -- these rules ask whether an operand accepts and report nothing of what it finds, so that no hypothesis of
  -- the induction is used
  | @elementsMatch label es hes ih =>
      have haccepts := fun e he => accepts_findTree (hes e he)
      rw [findTree, findRule, findTree, findRule, findOperands_eq_map, findOperands_eq_map]
      cases a with
      | array values =>
          rw [Find.elementsMatch, Find.elementsMatch, List.length_map, List.length_map,
            claimAll_congr haccepts values]
          exact .refl hR _
      | _ => exact .refl hR _
  | @inSet label es hes ih =>
      have haccepts := fun e he => accepts_findTree (hes e he)
      rw [findTree, findRule, findTree, findRule, findOperands_eq_map, findOperands_eq_map,
        inSet_congr haccepts a]
      exact .refl hR _
  | @and label es hes ih =>
      rw [findTree_and, findTree_and]
      exact .flatMap fun e he => ih e he (fun hreach => hor (.operand label he hreach)) a
  -- an `or` that fails in both modes has its own message in the one and that of an alternative in the other
  | @or label es hes ih =>
      have haccepts := fun e he => accepts_findTree (hes e he)
      rw [findTree_or, findTree_or]
      -- the modes agree on whether an alternative accepts, and on nothing else
      have hnil : Find.or false (es.map (findTree false)) a = []
          ↔ Find.or true (es.map (findTree true)) a = [] := by
        rw [or_eq_nil_iff, or_eq_nil_iff, List.any_map, List.any_map]
        exact iff_of_eq (congrArg (· = true) (any_accepts_congr haccepts a))
      rcases or_stops (es.map (findTree false)) a with hfast | ⟨message, hfast⟩
      · rw [hfast, hnil.mp hfast]
        exact .nil
      · rw [hfast]
        cases hall : Find.or true (es.map (findTree true)) a with
        | nil => exact absurd (hfast ▸ hnil.mpr hall) (Find.here_ne_nil message)
        | cons n rest => exact .cons _ _ (hor (.here label es) message n)
  | @nor label es hes ih =>
      rw [findTree_nor, findTree_nor]
      refine .flatMap ?_
      rintro ⟨e, i⟩ hmem
      have he : e ∈ es := List.fst_mem_of_mem_zipIdx hmem
      dsimp only
      rw [accepts_findTree (hes e he)]
      exact .refl hR _
  | @not label e he ih =>
      rw [findTree, findRule, findTree, findRule, Find.not, Find.not, accepts_findTree he]
      exact .refl hR _
  | _ => exact .refl hR _

/-! ## The main statement -/

theorem Leads.verdicts {R : Mismatch → Mismatch → Prop} {ms ns : List Mismatch} (h : Leads R ms ns)
    {f g : Failure} (hfast : verdict false ms = .error f) (hall : verdict true ns = .error g) :
    ∃ m found, f = .single m ∧ g = .several found ∧ R m found.first := by
  cases h with
  | nil => exact absurd hfast (by nofun)
  | @cons m n ms ns hhead =>
      have hf : Failure.single m = f := Except.error.inj hfast
      have hg : Failure.several ⟨n, ns⟩ = g := Except.error.inj hall
      exact ⟨m, ⟨n, ns⟩, hf.symm, hg.symm, hhead⟩

/-- **The two modes agree**: they accept the same values, and where they fail, the one mismatch is at or
above the place of the first of all mismatches. It is that mismatch unless the comparison comes to an
`or`. -/
theorem Tester.modes_agree {e : Expected} (h : Builtin e) (fast all : Tester)
    (hfast : fast.options.collectAll = false) (hall : all.options.collectAll = true) (a : Value) :
    ((fast.test e a).1 = .ok () ↔ (all.test e a).1 = .ok ()) ∧
      ∀ f g, (fast.test e a).1 = .error f → (all.test e a).1 = .error g →
        ∃ m ms, f = .single m ∧ g = .several ms ∧ m.path.segments <+: ms.first.path.segments ∧
          (¬ OrReachable e → m = ms.first) := by
  rw [Tester.test_eq_verdict, Tester.test_eq_verdict, hfast, hall]
  have hplace : Leads AtOrAbove (findTree false e a) (findTree true e a) :=
    findTree_leads steady_atOrAbove h (fun _ _ n => List.nil_prefix) a
  refine ⟨?_, fun f g hf hg => ?_⟩
  · rw [verdict_eq_ok_iff, verdict_eq_ok_iff]
    exact hplace.eq_nil_iff
  · obtain ⟨m, ms, rfl, rfl, hprefix⟩ := hplace.verdicts hf hg
    refine ⟨m, ms, rfl, rfl, hprefix, fun hno => ?_⟩
    -- without an `or` to come to, the same induction goes through for equality
    have hsame : Leads Eq (findTree false e a) (findTree true e a) :=
      findTree_leads steady_eq h (fun hreach => absurd hreach hno) a
    obtain ⟨m', ms', hm, hms, heq⟩ := hsame.verdicts hf hg
    cases hm
    cases hms
    exact heq

/-- The comparison does not come to an `or` below a `not`, so that both modes begin with the same mismatch. -/
theorem modes_agree_or_below_not :
    let e : Expected :=
      .document [("a", .rule [0] (.not (.rule [1] (.or [.int 1, .rule [2] .any])))), ("b", .int 1)]
    let a : Value := .document [("a", .int 2)]
    ∃ m ms, ((Tester.ofOptions { collectAll := false }).test e a).1 = .error (.single m) ∧
      ((Tester.ofOptions { collectAll := true }).test e a).1 = .error (.several ms) ∧
      ms.size = 2 ∧ m = ms.first := by
  intro e a
  have hbuiltin : Builtin e := by
    refine .document (List.forall_mem_cons.mpr ⟨.not [0] (.or [1] ?_), by simpa using .int 1⟩)
    exact List.forall_mem_cons.mpr ⟨.int 1, by simpa using .any [2]⟩
  have hno : ¬ OrReachable e := by
    rw [orReachable_document_iff]
    rintro ⟨entry, hmem, hreach⟩
    simp only [List.mem_cons, List.not_mem_nil, or_false] at hmem
    rcases hmem with rfl | rfl
    · cases hreach
    · cases hreach
  obtain ⟨m, ms, hm, hms, -, heq⟩ := (Tester.modes_agree hbuiltin
    (.ofOptions { collectAll := false }) (.ofOptions { collectAll := true }) rfl rfl a).2 _ _ rfl rfl
  refine ⟨m, ms, congrArg Except.error hm, congrArg Except.error hms, ?_, heq hno⟩
  cases hms
  rfl

end Conformance
