import Conformance.Proofs.Decoding
import Conformance.Proofs.Entries

/-!
# The constructors of the directives

Directives read their payloads in three ways: as a plain value, as one operand, or as an array of operands.
`Directive.Builds token c` says which of the three the constructor `c` of a token is, and what the rest of
the development has to know of the check that it makes on its own: its errors are never those of an operand,
and they do not depend on the labels of the operands. `builds_of_find?` goes through the table of directives
once; later statements go by the three ways.
-/

set_option autoImplicit false

namespace Conformance

/-- The error, if it is one, is not that of an operand. -/
def OwnError {α : Type} (x : Except RuleError α) : Prop := ∀ inner, x ≠ .error (.nested inner)

namespace OwnError

variable {α β : Type}

theorem ok (a : α) : OwnError (.ok a) := nofun

theorem mistyped (expected : String) (j : Json) : OwnError (Directive.mistyped expected j : Except _ α) :=
  nofun

theorem bind {x : Except RuleError α} {f : α → Except RuleError β} (hx : OwnError x)
    (hf : ∀ a, OwnError (f a)) : OwnError (x >>= f) := by
  cases x with
  | ok a => exact hf a
  | error source =>
      intro inner h
      have hsource : source = .nested inner := Except.error.inj h
      exact hx inner (congrArg Except.error hsource)

end OwnError

namespace Directive

variable {r : Registry} {label : Label} {e : Expected}

/-! ## Constructors that succeed -/

theorem ofJson_eq_ok_iff {build : Json → Except RuleError Rule} {p : Payload} :
    ofJson build label p = .ok e ↔ ∃ rule, build p.json = .ok rule ∧ .rule label rule = e := by
  rw [ofJson, bind_eq_ok_iff]
  simp only [pure, Except.pure, Except.ok.injEq]

theorem ofOperand_eq_ok_iff {build : Expected → Except RuleError Rule} {p : Payload} :
    ofOperand build label p = .ok e
      ↔ ∃ operand rule, p.decoded = .ok operand ∧ build operand = .ok rule ∧ .rule label rule = e := by
  simp only [ofOperand, bind_eq_ok_iff, Payload.operand, mapError_eq_ok_iff, pure, Except.pure,
    Except.ok.injEq, exists_and_left]

theorem operands_eq_ok_iff {j : Json} {es : List Expected} :
    (r.payload label j).operands = .ok es
      ↔ ∃ items, j = .array items ∧ decodedItems 0 (r.payloadItems label 0 items) = .ok es := by
  cases j with
  | array items =>
      rw [Payload.operands, Registry.json_payload, mapError_eq_ok_iff]
      constructor
      · intro h
        exact ⟨items, rfl, h⟩
      · rintro ⟨items', hitems, h⟩
        cases hitems
        exact h
  | _ => exact iff_of_false nofun (by rintro ⟨items, hitems, -⟩; cases hitems)

theorem ofOperands_eq_ok_iff {build : List Expected → Except RuleError Rule} {p : Payload} :
    ofOperands build label p = .ok e
      ↔ ∃ es rule, p.operands = .ok es ∧ build es = .ok rule ∧ .rule label rule = e := by
  simp only [ofOperands, bind_eq_ok_iff, pure, Except.pure, Except.ok.injEq, exists_and_left]

/-! ## Errors of payloads -/

theorem ownError_boolean (j : Json) : OwnError (boolean j) := by
  cases j with
  | bool b => exact .ok b
  | _ => exact .mistyped _ _

theorem ownError_string (j : Json) : OwnError (string j) := by
  cases j with
  | string s => exact .ok s
  | _ => exact .mistyped _ _

theorem ownError_number (j : Json) : OwnError (number j) := by
  cases j with
  | integer i => exact .ok _
  | float x => exact .ok _
  | _ => exact nofun

theorem ownError_lengthNumber (j : Json) : OwnError (lengthNumber j) := by
  cases j with
  | integer i =>
      rw [lengthNumber]
      split
      · exact .ok _
      · exact nofun
  | float x =>
      rw [lengthNumber]
      cases x.toInt? with
      | none => exact nofun
      | some i =>
          dsimp only
          split
          · exact nofun
          · split
            · exact nofun
            · exact .ok _
  | _ => exact .mistyped _ _

theorem ownError_setBound (b : LengthBounds) (member : String × Json) : OwnError (setBound b member) := by
  unfold setBound
  split
  all_goals first
    | exact .bind (ownError_lengthNumber _) fun _ => .ok _
    | exact nofun

theorem ownError_lengthBounds (j : Json) : OwnError (lengthBounds j) := by
  cases j with
  | integer i => exact .bind (ownError_lengthNumber _) fun _ => .ok _
  | float x => exact .bind (ownError_lengthNumber _) fun _ => .ok _
  | object members =>
      rw [lengthBounds]
      generalize ({} : LengthBounds) = start
      induction members generalizing start with
      | nil => exact .ok _
      | cons m rest ih =>
          rw [List.foldlM_cons]
          exact .bind (ownError_setBound start m) ih
  | _ => exact .mistyped _ _

theorem ownError_length? (b : LengthBounds) : OwnError (Rule.length? b) := by
  refine .bind ?_ fun _ => .ok _
  unfold LengthBounds.validate
  split
  · exact nofun
  · exact nofun
  · exact .ok _

theorem ownError_pattern? (s : String) : OwnError (Rule.pattern? s) := by
  unfold Rule.pattern?
  split
  · exact .ok _
  · exact nofun

theorem ownError_buildRequired (j : Json) : OwnError (buildRequired j) := by
  refine .bind (ownError_boolean j) fun b => ?_
  cases b with
  | true => exact .ok _
  | false => exact nofun

/-! ## The three ways to read a payload -/

/-- How a directive reads its payload. -/
inductive Reading where
  /-- As a plain value, whatever is in it. -/
  | value
  /-- As one operand. -/
  | operand
  /-- As an array of operands. -/
  | operands
  deriving DecidableEq

def reading : String → Reading
  | "$eq" | "$ne" | "$not" => .operand
  | "$elementsMatch" | "$in" | "$and" | "$or" | "$nor" => .operands
  | _ => .value

def operands (token : String) (payload : Json) : List Json :=
  match reading token, payload with
  | .operand, p => [p]
  | .operands, .array items => items
  | _, _ => []

/-- The constructor reads the payload as the directive of the token does, and what it checks on its own is as
it should be. -/
inductive Builds (token : String) : Constructor → Prop where
  | value {build : Json → Except RuleError Rule} (hreading : reading token = .value)
      (hown : ∀ j, OwnError (build j)) : Builds token (ofJson build)
  | operand {build : Expected → Except RuleError Rule} (hreading : reading token = .operand)
      (hown : ∀ e, OwnError (build e)) (hsame : ∀ e e' source, e.hasRule = e'.hasRule →
        build e = .error source → build e' = .error source) : Builds token (ofOperand build)
  | operands {build : List Expected → Except RuleError Rule} (hreading : reading token = .operands)
      (hown : ∀ es, OwnError (build es)) (hsame : ∀ es es' source, es.length = es'.length →
        build es = .error source → build es' = .error source) : Builds token (ofOperands build)

/-- A directive that takes any operand. -/
theorem Builds.ofAny {token : String} {f : Expected → Rule} (hreading : reading token = .operand) :
    Builds token (ofOperand fun e => .ok (f e)) :=
  .operand hreading (fun _ => .ok _) fun _ _ _ _ h => by cases h

/-- A list of operands is refused only for being empty. -/
theorem Builds.ofSome {token : String} {f : List Expected → Rule} (hreading : reading token = .operands) :
    Builds token (ofOperands fun es => return f (← Rule.nonEmpty token es)) := by
  refine .operands hreading (fun es => ?_) fun es es' source hlength h => ?_
  · cases es with
    | nil => exact nofun
    | cons e rest => exact .ok _
  · cases es with
    | cons e rest => cases h
    | nil =>
        have hnil : es' = [] := List.length_eq_zero_iff.mp hlength.symm
        rw [hnil, h]

/-- `$ne` refuses an operand for a rule in it, which every label shows. -/
theorem builds_notEqual : Builds "$ne" (ofOperand buildNotEqual) := by
  refine .operand rfl (fun e => ?_) fun e e' source hrule h => ?_
  · unfold buildNotEqual
    split
    · exact nofun
    · exact .ok _
  · unfold buildNotEqual at h ⊢
    rw [← hrule]
    split at h
    · rename_i hhas
      rw [if_pos hhas, h]
    · cases h

/-- The four numeric bounds read a number and add their direction. -/
theorem builds_bound {token : String} (hreading : reading token = .value) (direction : Direction)
    (inclusive : Bool) : Builds token (ofBound direction inclusive) :=
  .value hreading fun j => .bind (ownError_number j) fun _ => .ok _

/-- The table of directives, token by token. -/
theorem builtin_cases
    {P : (token : String) → (c : Constructor) → Registry.builtin.find? token = some c → Prop}
    (eq : P "$eq" (ofOperand fun e => .ok (.equal e)) rfl)
    (ne : P "$ne" (ofOperand buildNotEqual) rfl)
    (nil : P "$nil" (ofJson fun json => return .nil true (← boolean json)) rfl)
    (notNil : P "$notNil" (ofJson fun json => return .nil false (← boolean json)) rfl)
    (required : P "$required" (ofJson buildRequired) rfl)
    (any : P "$any" (ofJson fun _ => .ok .any) rfl)
    (regex : P "$regex" (ofJson fun json => do Rule.pattern? (← string json)) rfl)
    (elementsMatch : P "$elementsMatch" (ofOperands fun es => .ok (.elementsMatch es)) rfl)
    (length : P "$length" (ofJson fun json => do Rule.length? (← lengthBounds json)) rfl)
    (empty : P "$empty" (ofJson fun json => return .empty (← boolean json)) rfl)
    (lt : P "$lt" (ofBound .below false) rfl)
    (lte : P "$lte" (ofBound .below true) rfl)
    (gt : P "$gt" (ofBound .above false) rfl)
    (gte : P "$gte" (ofBound .above true) rfl)
    (inSet : P "$in" (ofOperands fun es => return .inSet (← Rule.nonEmpty "$in" es)) rfl)
    (and : P "$and" (ofOperands fun es => return .and (← Rule.nonEmpty "$and" es)) rfl)
    (or : P "$or" (ofOperands fun es => return .or (← Rule.nonEmpty "$or" es)) rfl)
    (nor : P "$nor" (ofOperands fun es => return .nor (← Rule.nonEmpty "$nor" es)) rfl)
    (not : P "$not" (ofOperand fun e => .ok (.not e)) rfl)
    (token : String) (c : Constructor) (hfind : Registry.builtin.find? token = some c) :
    P token c hfind := by
  have hmem : (token, c) ∈ Registry.builtin.entries := mem_of_lookup hfind
  simp only [Registry.builtin, List.mem_cons, List.not_mem_nil, or_false, Prod.mk.injEq] at hmem
  rcases hmem with ⟨rfl, rfl⟩ | ⟨rfl, rfl⟩ | ⟨rfl, rfl⟩ | ⟨rfl, rfl⟩ | ⟨rfl, rfl⟩ | ⟨rfl, rfl⟩ | ⟨rfl, rfl⟩ |
    ⟨rfl, rfl⟩ | ⟨rfl, rfl⟩ | ⟨rfl, rfl⟩ | ⟨rfl, rfl⟩ | ⟨rfl, rfl⟩ | ⟨rfl, rfl⟩ | ⟨rfl, rfl⟩ | ⟨rfl, rfl⟩ |
    ⟨rfl, rfl⟩ | ⟨rfl, rfl⟩ | ⟨rfl, rfl⟩ | ⟨rfl, rfl⟩
  · exact eq
  · exact ne
  · exact nil
  · exact notNil
  · exact required
  · exact any
  · exact regex
  · exact elementsMatch
  · exact length
  · exact empty
  · exact lt
  · exact lte
  · exact gt
  · exact gte
  · exact inSet
  · exact and
  · exact or
  · exact nor
  · exact not

/-- **Every directive reads its payload in one of the three ways.** -/
theorem builds_of_find? {token : String} {c : Constructor} (h : Registry.builtin.find? token = some c) :
    Builds token c := by
  induction token, c, h using builtin_cases with
  | eq => exact .ofAny rfl
  | ne => exact builds_notEqual
  | nil => exact .value rfl fun j => .bind (ownError_boolean j) fun _ => .ok _
  | notNil => exact .value rfl fun j => .bind (ownError_boolean j) fun _ => .ok _
  | required => exact .value rfl ownError_buildRequired
  | any => exact .value rfl fun _ => .ok _
  | regex => exact .value rfl fun j => .bind (ownError_string j) ownError_pattern?
  | elementsMatch => exact .operands rfl (fun _ => .ok _) nofun
  | length => exact .value rfl fun j => .bind (ownError_lengthBounds j) ownError_length?
  | empty => exact .value rfl fun j => .bind (ownError_boolean j) fun _ => .ok _
  | lt => exact builds_bound rfl .below false
  | lte => exact builds_bound rfl .below true
  | gt => exact builds_bound rfl .above false
  | gte => exact builds_bound rfl .above true
  | inSet => exact .ofSome rfl
  | and => exact .ofSome rfl
  | or => exact .ofSome rfl
  | nor => exact .ofSome rfl
  | not => exact .ofAny rfl

theorem Builds.hasRule {token : String} {c : Constructor} (h : Builds token c) {p : Payload}
    (hbuilt : c label p = .ok e) : e.hasRule = true := by
  cases h with
  | value =>
      obtain ⟨rule, -, rfl⟩ := ofJson_eq_ok_iff.mp hbuilt
      rfl
  | operand =>
      obtain ⟨operand, rule, -, -, rfl⟩ := ofOperand_eq_ok_iff.mp hbuilt
      rfl
  | operands =>
      obtain ⟨operands, rule, -, -, rfl⟩ := ofOperands_eq_ok_iff.mp hbuilt
      rfl

/-- A decoded tree of the registry of all directives has a rule where the value has a directive. -/
theorem builtin_makesRules : Registry.builtin.MakesRules :=
  fun _ _ hfind _ _ _ hbuilt => (builds_of_find? hfind).hasRule hbuilt

end Directive

end Conformance
