import Conformance.Proofs.Constructors
import Conformance.Proofs.Words

/-!
# The grammar of expectations

`Directive.Valid` says which JSON values are expectations, without decoding anything: a directive is one only
as the single member of an object, its payload has the form that its token asks for, and what looks like a
directive in a payload that is not decoded counts for nothing. Decoding with all directives accepts exactly
the valid values (`Registry.decode_ok_iff_valid`).

Integers are taken to be words, as those of all texts are (`Json.read_inWords`).
-/

set_option autoImplicit false

namespace Conformance

namespace Directive

open Registry

/-! ## Lengths -/

def boundNames : List String := ["eq", "lt", "lte", "gt", "gte"]

inductive LengthNumber : Json → Prop where
  | integer {i : Int} (hlow : 0 ≤ i) (hhigh : i ≤ Json.greatestWord) : LengthNumber (.integer i)
  | float {x : Binary64} {i : Int} (hwhole : x.toInt? = some i) (hlow : 0 ≤ i)
      (hhigh : i ≤ greatestFloatLength) : LengthNumber (.float x)

/-- An exact length, or an object of bounds; a bound that is exact stands alone. -/
inductive LengthPayload : Json → Prop where
  | exact {j : Json} (h : LengthNumber j) : LengthPayload j
  | bounds {members : List (String × Json)} (hsome : members ≠ [])
      (hnames : ∀ m ∈ members, m.1 ∈ boundNames)
      (halone : (∃ m ∈ members, m.1 = "eq") → ∀ m ∈ members, m.1 = "eq")
      (hnumbers : ∀ m ∈ members, LengthNumber m.2) : LengthPayload (.object members)

/-- A payload is taken for a length where the grammar has one; of floats only whole ones are. -/
theorem exists_lengthNumber_iff {j : Json} (hwords : j.InWords) :
    (∃ n, lengthNumber j = .ok n) ↔ LengthNumber j := by
  cases j with
  | integer i =>
      rw [lengthNumber]
      split
      · rename_i hi
        exact iff_of_true ⟨_, rfl⟩ (.integer hi hwords.le_greatestWord)
      · rename_i hi
        -- a negative integer is refused, and the grammar has none
        refine iff_of_false (by rintro ⟨n, hn⟩; cases hn) ?_
        rintro ⟨hi'⟩
        exact hi hi'
  | float x =>
      cases hwhole : x.toInt? with
      | none =>
          refine iff_of_false ?_ ?_
          · rintro ⟨n, hn⟩
            simp [lengthNumber, hwhole] at hn
          · rintro (_ | ⟨hwhole', -, -⟩)
            rw [hwhole] at hwhole'
            cases hwhole'
      | some i =>
          -- a whole float is taken as long as it is neither negative nor beyond the greatest length
          have hlength : lengthNumber (.float x) = if i < 0 then .error .negativeLength
              else if greatestFloatLength < i then .error (.payload "length within range" "number")
              else .ok i.toNat := by
            rw [lengthNumber, hwhole]
          constructor
          · rintro ⟨n, hn⟩
            rw [hlength] at hn
            split at hn
            · cases hn
            · split at hn
              · cases hn
              · exact .float hwhole (by omega) (by omega)
          · rintro (_ | ⟨hwhole', hlow, hhigh⟩)
            rw [hwhole] at hwhole'
            cases hwhole'
            rw [hlength, if_neg (by omega), if_neg (by omega)]
            exact ⟨_, rfl⟩
  | _ => exact iff_of_false (by rintro ⟨n, hn⟩; cases hn) (by intro h; cases h)

/-- A member with the name of a bound sets it to the length that its value is. -/
theorem setBound_named {name : String} (hname : name ∈ boundNames) (b : LengthBounds) :
    ∃ f : Nat → LengthBounds,
      (∀ j, setBound b (name, j) = lengthNumber j >>= fun n => .ok (f n)) ∧
      ∀ n, (f n).eq.isSome = (b.eq.isSome || decide (name = "eq")) ∧
        (f n).hasRelational = (b.hasRelational || decide (name ≠ "eq")) := by
  simp only [boundNames, List.mem_cons, List.not_mem_nil, or_false] at hname
  rcases hname with rfl | rfl | rfl | rfl | rfl
  · exact ⟨fun n => { b with eq := some n }, fun _ => rfl, by simp [LengthBounds.hasRelational]⟩
  · exact ⟨fun n => { b with lt := some n }, fun _ => rfl, by simp [LengthBounds.hasRelational]⟩
  · exact ⟨fun n => { b with lte := some n }, fun _ => rfl, by simp [LengthBounds.hasRelational]⟩
  · exact ⟨fun n => { b with gt := some n }, fun _ => rfl, by simp [LengthBounds.hasRelational]⟩
  · exact ⟨fun n => { b with gte := some n }, fun _ => rfl, by simp [LengthBounds.hasRelational]⟩

theorem setBound_unnamed {name : String} (hname : name ∉ boundNames) (b : LengthBounds) (j : Json) :
    setBound b (name, j) = .error (.unknownLengthBound name) := by
  simp only [boundNames, List.mem_cons, List.not_mem_nil, or_false, not_or] at hname
  obtain ⟨heq, hlt, hlte, hgt, hgte⟩ := hname
  unfold setBound
  split
  · contradiction
  · contradiction
  · contradiction
  · contradiction
  · contradiction
  · rfl

/-- What a member must have been, and what it adds to the bounds: an exact one, or a relation. -/
theorem setBound_eq_ok {b b' : LengthBounds} {m : String × Json} (h : setBound b m = .ok b') :
    (m.1 ∈ boundNames ∧ ∃ n, lengthNumber m.2 = .ok n) ∧
      b'.eq.isSome = (b.eq.isSome || decide (m.1 = "eq")) ∧
      b'.hasRelational = (b.hasRelational || decide (m.1 ≠ "eq")) := by
  by_cases hname : m.1 ∈ boundNames
  · obtain ⟨f, hset, hf⟩ := setBound_named hname b
    rw [hset, bind_eq_ok_iff] at h
    obtain ⟨n, hn, hb'⟩ := h
    cases hb'
    exact ⟨⟨hname, n, hn⟩, hf n⟩
  · rw [setBound_unnamed hname] at h
    cases h

/-- The same for all members together. Which bounds there are in the end is told by the names alone. -/
theorem setBounds_eq_ok {members : List (String × Json)} {b b' : LengthBounds}
    (h : members.foldlM setBound b = .ok b') :
    (∀ m ∈ members, m.1 ∈ boundNames ∧ ∃ n, lengthNumber m.2 = .ok n) ∧
      b'.eq.isSome = (b.eq.isSome || members.any fun m => decide (m.1 = "eq")) ∧
      b'.hasRelational = (b.hasRelational || members.any fun m => decide (m.1 ≠ "eq")) := by
  induction members generalizing b with
  | nil =>
      cases h
      simp
  | cons m rest ih =>
      rw [List.foldlM_cons, bind_eq_ok_iff] at h
      obtain ⟨between, hfirst, hrest⟩ := h
      obtain ⟨hm, hexact, hrelational⟩ := setBound_eq_ok hfirst
      obtain ⟨hothers, hexact', hrelational'⟩ := ih hrest
      refine ⟨List.forall_mem_cons.mpr ⟨hm, hothers⟩, ?_, ?_⟩
      · rw [hexact', hexact, List.any_cons, Bool.or_assoc]
      · rw [hrelational', hrelational, List.any_cons, Bool.or_assoc]

/-- Named members with lengths for values are never refused, even if they contradict each other. -/
theorem exists_setBounds {members : List (String × Json)}
    (h : ∀ m ∈ members, m.1 ∈ boundNames ∧ ∃ n, lengthNumber m.2 = .ok n) (b : LengthBounds) :
    ∃ b', members.foldlM setBound b = .ok b' := by
  induction members generalizing b with
  | nil => exact ⟨b, rfl⟩
  | cons m rest ih =>
      obtain ⟨⟨hname, n, hn⟩, hrest⟩ := List.forall_mem_cons.mp h
      obtain ⟨f, hset, -⟩ := setBound_named hname b
      obtain ⟨b', hb'⟩ := ih hrest (f n)
      refine ⟨b', ?_⟩
      rw [List.foldlM_cons, hset, hn]
      exact hb'

/-- Bounds make a rule if there is an exact one or a relation, and not both. -/
theorem exists_length?_iff {b : LengthBounds} :
    (∃ rule, Rule.length? b = .ok rule) ↔ b.eq.isSome = !b.hasRelational := by
  unfold Rule.length? LengthBounds.validate
  cases b.eq.isSome <;> cases b.hasRelational
  · exact iff_of_false (by rintro ⟨rule, h⟩; cases h) nofun
  · exact iff_of_true ⟨_, rfl⟩ rfl
  · exact iff_of_true ⟨_, rfl⟩ rfl
  · exact iff_of_false (by rintro ⟨rule, h⟩; cases h) nofun

/-- The names of the members are those of a single exact bound or of relations, and there are some. -/
theorem any_eq_not_any_iff (members : List (String × Json)) :
    ((members.any fun m => decide (m.1 = "eq")) = !members.any fun m => decide (m.1 ≠ "eq"))
      ↔ members ≠ [] ∧ ((∃ m ∈ members, m.1 = "eq") → ∀ m ∈ members, m.1 = "eq") := by
  have hsome : members ≠ [] ↔ ((∀ m ∈ members, m.1 = "eq") → ∃ m ∈ members, m.1 = "eq") := by
    cases members with
    | nil => simp
    | cons m rest =>
        refine iff_of_true (List.cons_ne_nil m rest) fun h => ?_
        exact ⟨m, List.mem_cons_self, h m List.mem_cons_self⟩
  rw [hsome, ← iff_def', Bool.eq_iff_iff]
  simp

theorem exists_lengthBounds_iff {j : Json} (hwords : j.InWords) :
    (∃ rule, (lengthBounds j >>= Rule.length?) = .ok rule) ↔ LengthPayload j := by
  constructor
  · rintro ⟨rule, h⟩
    obtain ⟨b, hbounds, hrule⟩ := bind_eq_ok_iff.mp h
    cases j with
    | integer i =>
        obtain ⟨n, hn, -⟩ := bind_eq_ok_iff.mp hbounds
        exact .exact ((exists_lengthNumber_iff hwords).mp ⟨n, hn⟩)
    | float x =>
        obtain ⟨n, hn, -⟩ := bind_eq_ok_iff.mp hbounds
        exact .exact ((exists_lengthNumber_iff hwords).mp ⟨n, hn⟩)
    | object members =>
        obtain ⟨hmembers, hexact, hrelational⟩ := setBounds_eq_ok hbounds
        have hvalid : b.eq.isSome = !b.hasRelational := exists_length?_iff.mp ⟨rule, hrule⟩
        rw [hexact, hrelational] at hvalid
        obtain ⟨hsome, halone⟩ := (any_eq_not_any_iff members).mp hvalid
        refine .bounds hsome (fun m hm => (hmembers m hm).1) halone fun m hm => ?_
        exact (exists_lengthNumber_iff (hwords.member m hm)).mp (hmembers m hm).2
    | _ => cases hbounds
  · rintro (hnumber | ⟨hsome, hnames, halone, hnumbers⟩)
    · obtain ⟨n, hn⟩ := (exists_lengthNumber_iff hwords).mpr hnumber
      have hbounds : lengthBounds j = .ok (.exactly n) := by
        cases hnumber with
        | integer => rw [lengthBounds, hn]; rfl
        | float => rw [lengthBounds, hn]; rfl
      rw [hbounds]
      exact ⟨_, rfl⟩
    · rename_i members
      have hmembers : ∀ m ∈ members, m.1 ∈ boundNames ∧ ∃ n, lengthNumber m.2 = .ok n := by
        intro m hm
        exact ⟨hnames m hm, (exists_lengthNumber_iff (hwords.member m hm)).mpr (hnumbers m hm)⟩
      obtain ⟨b, hb⟩ := exists_setBounds hmembers {}
      obtain ⟨-, hexact, hrelational⟩ := setBounds_eq_ok hb
      have hvalid : b.eq.isSome = !b.hasRelational := by
        rw [hexact, hrelational]
        exact (any_eq_not_any_iff members).mpr ⟨hsome, halone⟩
      obtain ⟨rule, hrule⟩ := exists_length?_iff.mpr hvalid
      exact ⟨rule, bind_eq_ok_iff.mpr ⟨b, hb, hrule⟩⟩

/-! ## Other payloads -/

theorem boolean_eq_ok {j : Json} {b : Bool} (h : boolean j = .ok b) : j = .bool b := by
  cases j with
  | bool b' => rw [boolean, Except.ok.injEq] at h; rw [h]
  | _ => cases h

theorem string_eq_ok {j : Json} {s : String} (h : string j = .ok s) : j = .string s := by
  cases j with
  | string s' => rw [string, Except.ok.injEq] at h; rw [h]
  | _ => cases h

inductive IsNumber : Json → Prop where
  | integer (i : Int) : IsNumber (.integer i)
  | float (x : Binary64) : IsNumber (.float x)

theorem exists_number_iff {j : Json} : (∃ n, number j = .ok n) ↔ IsNumber j := by
  cases j with
  | integer i => exact iff_of_true ⟨_, rfl⟩ (.integer i)
  | float x => exact iff_of_true ⟨_, rfl⟩ (.float x)
  | _ => exact iff_of_false (by rintro ⟨n, hn⟩; cases hn) (by intro h; cases h)

theorem exists_pattern?_iff {text : String} :
    (∃ rule, Rule.pattern? text = .ok rule) ↔ (Pattern.compile? text).isSome = true := by
  unfold Rule.pattern?
  cases Pattern.compile? text with
  | some p => exact iff_of_true ⟨_, rfl⟩ rfl
  | none => exact iff_of_false (by rintro ⟨rule, h⟩; cases h) nofun

/-! ## The grammar -/

/-- The value is an expectation: decoding it with all directives cannot fail. -/
inductive Valid : Json → Prop where
  | null : Valid .null
  | bool (b : Bool) : Valid (.bool b)
  | integer (i : Int) : Valid (.integer i)
  | float (x : Binary64) : Valid (.float x)
  | string (s : String) : Valid (.string s)
  | array {items : List Json} (h : ∀ x ∈ items, Valid x) : Valid (.array items)
  | document {members : List (String × Json)} (hplain : ¬ builtin.IsDirective members)
      (h : ∀ m ∈ members, Valid m.2) : Valid (.object members)
  | operand {token : String} {p : Json} (htoken : token ∈ ["$eq", "$not"]) (h : Valid p) :
      Valid (.object [(token, p)])
  | notEqual {p : Json} (h : ¬ p.HasDirective builtin) : Valid (.object [("$ne", p)])
  | flag {token : String} (htoken : token ∈ ["$nil", "$notNil", "$empty"]) (b : Bool) :
      Valid (.object [(token, .bool b)])
  | required : Valid (.object [("$required", .bool true)])
  | any (p : Json) : Valid (.object [("$any", p)])
  | regex {s : String} (h : (Pattern.compile? s).isSome = true) : Valid (.object [("$regex", .string s)])
  | bound {token : String} {p : Json} (htoken : token ∈ ["$lt", "$lte", "$gt", "$gte"])
      (h : IsNumber p) : Valid (.object [(token, p)])
  | elementsMatch {items : List Json} (h : ∀ x ∈ items, Valid x) :
      Valid (.object [("$elementsMatch", .array items)])
  | operands {token : String} {items : List Json} (htoken : token ∈ ["$in", "$and", "$or", "$nor"])
      (hsome : items ≠ []) (h : ∀ x ∈ items, Valid x) : Valid (.object [(token, .array items)])
  | length {p : Json} (h : LengthPayload p) : Valid (.object [("$length", p)])

/-! ## Valid values are decoded -/

theorem decodes_value {token : String} {build : Json → Except RuleError Rule}
    (hfind : builtin.find? token = some (ofJson build)) {p : Json} (h : ∃ rule, build p = .ok rule) :
    builtin.Decodes (.object [(token, p)]) := by
  intro label
  obtain ⟨rule, hrule⟩ := h
  refine ⟨.rule label rule, (decoded_directive_eq_ok_iff hfind).mpr ?_⟩
  refine ofJson_eq_ok_iff.mpr ⟨rule, ?_, rfl⟩
  rw [json_payload, hrule]

theorem decodes_bound {token : String} {direction : Direction} {inclusive : Bool}
    (hfind : builtin.find? token = some (ofBound direction inclusive)) {p : Json} (h : IsNumber p) :
    builtin.Decodes (.object [(token, p)]) := by
  obtain ⟨n, hn⟩ := exists_number_iff.mpr h
  refine decodes_value hfind ⟨.numeric ⟨n, direction, inclusive⟩, ?_⟩
  rw [hn]
  rfl

theorem decodes_operand {token : String} {build : Expected → Except RuleError Rule}
    (hfind : builtin.find? token = some (ofOperand build)) {p : Json} (hp : builtin.Decodes p)
    (hbuild : ∀ label e, (builtin.payload label p).decoded = .ok e → ∃ rule, build e = .ok rule) :
    builtin.Decodes (.object [(token, p)]) := by
  intro label
  obtain ⟨e, he⟩ := hp (0 :: label)
  obtain ⟨rule, hrule⟩ := hbuild _ e he
  refine ⟨.rule label rule, (decoded_directive_eq_ok_iff hfind).mpr ?_⟩
  exact ofOperand_eq_ok_iff.mpr ⟨e, rule, he, hrule, rfl⟩

theorem decodes_operands {token : String} {build : List Expected → Except RuleError Rule}
    (hfind : builtin.find? token = some (ofOperands build)) {items : List Json}
    (hitems : ∀ x ∈ items, builtin.Decodes x)
    (hbuild : ∀ es, es.length = items.length → ∃ rule, build es = .ok rule) :
    builtin.Decodes (.object [(token, .array items)]) := by
  intro label
  obtain ⟨es, hes⟩ := exists_decodedItems hitems (0 :: label) 0 0
  have hlength : es.length = items.length := (decodesTo_of_decodedItems hes).length_eq.symm
  obtain ⟨rule, hrule⟩ := hbuild es hlength
  refine ⟨.rule label rule, (decoded_directive_eq_ok_iff hfind).mpr ?_⟩
  exact ofOperands_eq_ok_iff.mpr ⟨es, rule, operands_eq_ok_iff.mpr ⟨items, rfl, hes⟩, hrule, rfl⟩

theorem exists_nonEmpty {token : String} {f : List Expected → Rule} {items : List Json}
    {es : List Expected} (hsome : items ≠ []) (hlength : es.length = items.length) :
    ∃ rule, (do return f (← Rule.nonEmpty token es) : Except RuleError Rule) = .ok rule := by
  cases es with
  | nil => exact absurd (List.length_eq_zero_iff.mp hlength.symm) hsome
  | cons e rest => exact ⟨_, rfl⟩

/-- A value without directives has no rule once it is decoded, so that inequality with it makes sense. -/
theorem exists_buildNotEqual {p : Json} (h : ¬ p.HasDirective builtin) {label : Label} {e : Expected}
    (he : (builtin.payload label p).decoded = .ok e) : ∃ rule, buildNotEqual e = .ok rule := by
  have hrule : ¬ e.hasRule = true := fun hrule =>
    h ((hasRule_iff_hasDirective builtin_makesRules he).mp hrule)
  exact ⟨.notEqual e, if_neg hrule⟩

/-- Valid values are decoded, by induction on the grammar. -/
theorem decodes_of_valid {j : Json} (hwords : j.InWords) (h : Valid j) : builtin.Decodes j := by
  induction h with
  | null => exact fun _ => ⟨_, rfl⟩
  | bool b => exact fun _ => ⟨_, rfl⟩
  | integer i => exact fun _ => ⟨_, rfl⟩
  | float x => exact fun _ => ⟨_, rfl⟩
  | string s => exact fun _ => ⟨_, rfl⟩
  | array _ ih =>
      intro label
      obtain ⟨es, hes⟩ := exists_decodedItems (fun x hx => ih x hx (hwords.item x hx)) label 0 0
      exact ⟨.array es, map_eq_ok_iff.mpr ⟨es, hes, rfl⟩⟩
  | document hplain _ ih =>
      intro label
      obtain ⟨es, hes⟩ := exists_decodedEntries (fun m hm => ih m hm (hwords.member m hm)) label 0
      exact ⟨.document es, by rw [decoded_document hplain]; exact map_eq_ok_iff.mpr ⟨es, hes, rfl⟩⟩
  | operand htoken _ ih =>
      have hp := ih (hwords.member _ List.mem_cons_self)
      simp only [List.mem_cons, List.not_mem_nil, or_false] at htoken
      rcases htoken with rfl | rfl
      · exact decodes_operand rfl hp fun _ _ _ => ⟨_, rfl⟩
      · exact decodes_operand rfl hp fun _ _ _ => ⟨_, rfl⟩
  | notEqual hplain =>
      -- nothing is asked of a payload without directives: it stands for itself
      refine decodes_operand rfl (fun label => ⟨_, decoded_of_plain hplain label⟩) ?_
      exact fun label e he => exists_buildNotEqual hplain he
  | flag htoken b =>
      simp only [List.mem_cons, List.not_mem_nil, or_false] at htoken
      rcases htoken with rfl | rfl | rfl
      · exact decodes_value rfl ⟨_, rfl⟩
      · exact decodes_value rfl ⟨_, rfl⟩
      · exact decodes_value rfl ⟨_, rfl⟩
  | required => exact decodes_value rfl ⟨_, rfl⟩
  | any p => exact decodes_value rfl ⟨_, rfl⟩
  | regex h => exact decodes_value rfl (exists_pattern?_iff.mpr h)
  | bound htoken h =>
      simp only [List.mem_cons, List.not_mem_nil, or_false] at htoken
      rcases htoken with rfl | rfl | rfl | rfl
      · exact decodes_bound rfl h
      · exact decodes_bound rfl h
      · exact decodes_bound rfl h
      · exact decodes_bound rfl h
  | elementsMatch _ ih =>
      have hitems := (hwords.member _ List.mem_cons_self).item
      exact decodes_operands rfl (fun x hx => ih x hx (hitems x hx)) fun _ _ => ⟨_, rfl⟩
  | operands htoken hsome _ ih =>
      have hitems := (hwords.member _ List.mem_cons_self).item
      simp only [List.mem_cons, List.not_mem_nil, or_false] at htoken
      rcases htoken with rfl | rfl | rfl | rfl
      all_goals
        exact decodes_operands rfl (fun x hx => ih x hx (hitems x hx)) fun _ => exists_nonEmpty hsome
  | length h =>
      have hp := hwords.member _ List.mem_cons_self
      exact decodes_value rfl ((exists_lengthBounds_iff hp).mpr h)

/-! ## What is decoded is valid -/

section Converse

variable {token : String} {p : Json} {place label : Label} {e : Expected}

theorem exists_build_of_ofJson {build : Json → Except RuleError Rule}
    (h : ofJson build place (builtin.payload label p) = .ok e) : ∃ rule, build p = .ok rule := by
  obtain ⟨rule, hrule, -⟩ := ofJson_eq_ok_iff.mp h
  rw [json_payload] at hrule
  exact ⟨rule, hrule⟩

theorem eq_bool_of_ofJson {f : Bool → Rule}
    (h : ofJson (fun json => return f (← boolean json)) place (builtin.payload label p) = .ok e) :
    ∃ b, p = .bool b := by
  obtain ⟨rule, hrule⟩ := exists_build_of_ofJson h
  obtain ⟨b, hb, -⟩ := bind_eq_ok_iff.mp hrule
  exact ⟨b, boolean_eq_ok hb⟩

theorem isNumber_of_ofBound {direction : Direction} {inclusive : Bool}
    (h : ofBound direction inclusive place (builtin.payload label p) = .ok e) : IsNumber p := by
  obtain ⟨rule, hrule⟩ := exists_build_of_ofJson h
  obtain ⟨n, hn, -⟩ := bind_eq_ok_iff.mp hrule
  exact exists_number_iff.mp ⟨n, hn⟩

/-- The payload was decoded as an array on the way to the operands. -/
theorem exists_array_of_ofOperands {build : List Expected → Except RuleError Rule}
    (h : ofOperands build place (builtin.payload label p) = .ok e) :
    ∃ items es, p = .array items ∧ (builtin.payload label p).decoded = .ok (.array es) ∧
      es.length = items.length ∧ ∃ rule, build es = .ok rule := by
  obtain ⟨es, rule, hes, hrule, -⟩ := ofOperands_eq_ok_iff.mp h
  obtain ⟨items, rfl, hdecoded⟩ := operands_eq_ok_iff.mp hes
  have hlength : es.length = items.length := (decodesTo_of_decodedItems hdecoded).length_eq.symm
  exact ⟨items, es, rfl, map_eq_ok_iff.mpr ⟨es, hdecoded, rfl⟩, hlength, rule, hrule⟩

theorem ne_nil_of_nonEmpty {f : List Expected → Rule} {es : List Expected} {rule : Rule}
    (h : (do return f (← Rule.nonEmpty token es) : Except RuleError Rule) = .ok rule) : es ≠ [] := by
  rintro rfl
  cases h

theorem valid_items {items : List Json} (h : Valid (.array items)) : ∀ x ∈ items, Valid x := by
  cases h
  assumption

/-- The payload of a directive that needs operands is an array of valid ones, and there is one. -/
theorem valid_of_ofOperands {f : List Expected → Rule} (htoken : token ∈ ["$in", "$and", "$or", "$nor"])
    (hvalid : ∀ e, (builtin.payload label p).decoded = .ok e → Valid p)
    (h : ofOperands (fun es => return f (← Rule.nonEmpty token es)) place (builtin.payload label p)
      = .ok e) : Valid (.object [(token, p)]) := by
  obtain ⟨items, es, rfl, hdecoded, hlength, rule, hrule⟩ := exists_array_of_ofOperands h
  have hsome : items ≠ [] := by
    rintro rfl
    exact ne_nil_of_nonEmpty hrule (List.length_eq_zero_iff.mp hlength)
  exact .operands htoken hsome (valid_items (hvalid _ hdecoded))

/-- A directive that was built has the payload that its token asks for. -/
theorem valid_directive {c : Constructor} (hfind : builtin.find? token = some c) (hwords : p.InWords)
    (hvalid : ∀ e, (builtin.payload label p).decoded = .ok e → Valid p)
    (h : c place (builtin.payload label p) = .ok e) : Valid (.object [(token, p)]) := by
  -- where the payload is one operand, it has been decoded before the rule was made
  have hoperand : ∀ {build}, ofOperand build place (builtin.payload label p) = .ok e →
      ∃ operand rule, (builtin.payload label p).decoded = .ok operand ∧ build operand = .ok rule := by
    intro build hbuild
    obtain ⟨operand, rule, hdecoded, hrule, -⟩ := ofOperand_eq_ok_iff.mp hbuild
    exact ⟨operand, rule, hdecoded, hrule⟩
  induction token, c, hfind using builtin_cases with
  | eq =>
      obtain ⟨operand, -, hdecoded, -⟩ := hoperand h
      exact .operand (by decide) (hvalid operand hdecoded)
  | ne =>
      obtain ⟨operand, rule, hdecoded, hrule⟩ := hoperand h
      -- a directive in the payload would have made a rule in the operand, which the constructor refuses
      refine .notEqual fun hdirective => ?_
      have hhas : operand.hasRule = true :=
        (hasRule_iff_hasDirective builtin_makesRules hdecoded).mpr hdirective
      rw [buildNotEqual, if_pos hhas] at hrule
      cases hrule
  | nil =>
      obtain ⟨b, rfl⟩ := eq_bool_of_ofJson h
      exact .flag (by decide) b
  | notNil =>
      obtain ⟨b, rfl⟩ := eq_bool_of_ofJson h
      exact .flag (by decide) b
  | required =>
      obtain ⟨rule, hrule⟩ := exists_build_of_ofJson h
      obtain ⟨b, hb, hrest⟩ := bind_eq_ok_iff.mp hrule
      rw [boolean_eq_ok hb]
      cases b with
      | true => exact .required
      | false => cases hrest
  | any => exact .any p
  | regex =>
      obtain ⟨rule, hrule⟩ := exists_build_of_ofJson h
      obtain ⟨s, hs, hpattern⟩ := bind_eq_ok_iff.mp hrule
      rw [string_eq_ok hs]
      exact .regex (exists_pattern?_iff.mp ⟨rule, hpattern⟩)
  | elementsMatch =>
      obtain ⟨items, es, rfl, hdecoded, -, -⟩ := exists_array_of_ofOperands h
      exact .elementsMatch (valid_items (hvalid _ hdecoded))
  | length =>
      obtain ⟨rule, hrule⟩ := exists_build_of_ofJson h
      exact .length ((exists_lengthBounds_iff hwords).mp ⟨rule, hrule⟩)
  | empty =>
      obtain ⟨b, rfl⟩ := eq_bool_of_ofJson h
      exact .flag (by decide) b
  | lt => exact .bound (by decide) (isNumber_of_ofBound h)
  | lte => exact .bound (by decide) (isNumber_of_ofBound h)
  | gt => exact .bound (by decide) (isNumber_of_ofBound h)
  | gte => exact .bound (by decide) (isNumber_of_ofBound h)
  | inSet => exact valid_of_ofOperands (by decide) hvalid h
  | and => exact valid_of_ofOperands (by decide) hvalid h
  | or => exact valid_of_ofOperands (by decide) hvalid h
  | nor => exact valid_of_ofOperands (by decide) hvalid h
  | not =>
      obtain ⟨operand, -, hdecoded, -⟩ := hoperand h
      exact .operand (by decide) (hvalid operand hdecoded)

end Converse

/-- What was decoded is valid, by induction on the value and along the table of directives. -/
theorem valid_of_decoded {j : Json} (hwords : j.InWords) {label : Label} {e : Expected}
    (h : (builtin.payload label j).decoded = .ok e) : Valid j := by
  induction j using Json.induction generalizing label e with
  | null => exact .null
  | bool b => exact .bool b
  | integer i => exact .integer i
  | float x => exact .float x
  | string s => exact .string s
  | array items ih =>
      rw [decoded_array, map_eq_ok_iff] at h
      obtain ⟨es, hes, -⟩ := h
      refine .array fun x hx => ?_
      obtain ⟨y, place, hy⟩ := exists_of_forall₂ (decodesTo_of_decodedItems hes) x hx
      exact ih x hx (hwords.item x hx) hy
  | object members ih =>
      by_cases hdirective : builtin.IsDirective members
      · obtain ⟨token, p, rfl, hcontains⟩ := hdirective
        obtain ⟨c, hfind⟩ := Option.isSome_iff_exists.mp hcontains
        have hp : p.InWords := hwords.member _ List.mem_cons_self
        -- the constructor decides whether the hypothesis about the payload is needed at all
        have hbuilt := (decoded_directive_eq_ok_iff hfind).mp h
        exact valid_directive hfind hp (fun e he => ih _ List.mem_cons_self hp he) hbuilt
      · rw [decoded_document hdirective, map_eq_ok_iff] at h
        obtain ⟨es, hes, -⟩ := h
        refine .document hdirective fun m hm => ?_
        obtain ⟨entry, -, place, hentry⟩ := exists_of_forall₂ (decodesTo_of_decodedEntries hes) m hm
        exact ih m hm (hwords.member m hm) hentry

end Directive

/-- **Decoding with all directives accepts exactly the valid values.** -/
theorem Registry.decode_ok_iff_valid (origin : Nat) {j : Json} (hwords : j.InWords) :
    (∃ e, Registry.builtin.decode origin j = .ok e) ↔ Directive.Valid j := by
  constructor
  · rintro ⟨e, he⟩
    exact Directive.valid_of_decoded hwords he
  · intro hvalid
    exact Directive.decodes_of_valid hwords hvalid [origin]

/-- An expectation with two things that only look like directives: the payload of `$any` is not decoded, so
that a flag may be a number there, and an object with two tokens is a document. -/
def Json.lookalikes : Json :=
  .object [("$and", .array [
    .object [("$any", .object [("$nil", .integer 3)])],
    .object [("$eq", .integer 1), ("$nil", .integer 3)],
    .object [("$length", .object [("gte", .integer 0), ("lt", .float (.ofInt 2))])]])]

theorem decode_ok_of_lookalikes :
    Json.lookalikes.InWords ∧ ∃ e, Registry.builtin.decode 0 Json.lookalikes = .ok e := by
  have hwords : Json.lookalikes.InWords := by
    have hsmall : ∀ i ∈ [(0 : Int), 1, 3], (Json.integer i).InWords := fun i hi =>
      .integer (by revert i; decide) (by revert i; decide)
    refine .object (List.forall_mem_singleton.mpr (.array ?_))
    simp only [List.forall_mem_cons]
    refine ⟨.object ?_, .object ?_, .object ?_, List.forall_mem_nil _⟩
    · exact List.forall_mem_singleton.mpr (.object (List.forall_mem_singleton.mpr (hsmall 3 (by decide))))
    · exact List.forall_mem_cons.mpr
        ⟨hsmall 1 (by decide), List.forall_mem_singleton.mpr (hsmall 3 (by decide))⟩
    · refine List.forall_mem_singleton.mpr (.object (List.forall_mem_cons.mpr ⟨hsmall 0 (by decide), ?_⟩))
      exact List.forall_mem_singleton.mpr (.float _)
  have hvalid : Directive.Valid Json.lookalikes := by
    refine .operands (by decide) (List.cons_ne_nil _ _) ?_
    simp only [List.forall_mem_cons]
    refine ⟨.any _, .document ?_ ?_, .length (.bounds ?_ ?_ ?_ ?_), List.forall_mem_nil _⟩
    · rintro ⟨token, p, hmembers, -⟩
      cases hmembers
    · exact List.forall_mem_cons.mpr ⟨.integer 1, List.forall_mem_singleton.mpr (.integer 3)⟩
    · exact List.cons_ne_nil _ _
    · decide
    · decide
    · refine List.forall_mem_cons.mpr ⟨.integer (by decide) (by decide), ?_⟩
      exact List.forall_mem_singleton.mpr (.float rfl (by decide) (by decide))
  exact ⟨hwords, (Registry.decode_ok_iff_valid 0 hwords).mpr hvalid⟩

/-- A text is decoded exactly if it can be read and what it says is valid. -/
theorem Registry.decodeText_ok_iff (origin : Nat) (text : String) :
    (∃ e, Registry.builtin.decodeText origin text = .ok e)
      ↔ ∃ j, Json.read text = .ok j ∧ Directive.Valid j := by
  unfold Registry.decodeText
  cases hread : Json.read text with
  | error err => exact iff_of_false nofun nofun
  | ok j =>
      have hwords : j.InWords := Json.read_inWords hread
      constructor
      · rintro ⟨e, he⟩
        exact ⟨j, rfl, Directive.valid_of_decoded hwords he⟩
      · rintro ⟨j', hj', hvalid⟩
        cases hj'
        exact Directive.decodes_of_valid hwords hvalid [origin]

end Conformance
