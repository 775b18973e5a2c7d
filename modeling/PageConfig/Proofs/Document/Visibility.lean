import PageConfig.Document.Visibility

/-!
# Laws of conditions

A condition joins its own result and those below it by its connective, and so does a list of
conditions. Conjunction and disjunction are monotone, do not mind the sequence, and a
conjunction inside a conjunction may be taken apart.
-/

set_option autoImplicit false

namespace PageConfig

namespace Connective

def join : Connective → Bool → Bool → Bool
  | and, a, b => a && b
  | or, a, b => a || b

def unit : Connective → Bool
  | and => true
  | or => false

@[simp] theorem join_unit (k : Connective) (a : Bool) : k.join a k.unit = a := by
  cases k <;> cases a <;> rfl

theorem join_left_comm (k : Connective) (a b c : Bool) :
    k.join a (k.join b c) = k.join b (k.join a c) := by
  cases k <;> cases a <;> cases b <;> rfl

theorem join_mono (k : Connective) {a a' b b' : Bool} (ha : a = true → a' = true)
    (hb : b = true → b' = true) (h : k.join a b = true) : k.join a' b' = true := by
  cases k with
  | and =>
    obtain ⟨ha', hb'⟩ := Bool.and_eq_true_iff.1 h
    exact Bool.and_eq_true_iff.2 ⟨ha ha', hb hb'⟩
  | or => exact Bool.or_eq_true_iff.2 ((Bool.or_eq_true_iff.1 h).imp ha hb)

end Connective

namespace Condition

variable {context : Value}

def joined (context : Value) (k : Connective) (cs : List Condition) : Bool :=
  cs.foldr (fun c result => k.join (c.holds context) result) k.unit

@[simp] theorem joined_nil (k : Connective) : joined context k [] = k.unit := rfl

@[simp] theorem joined_cons (k : Connective) (c : Condition) (cs : List Condition) :
    joined context k (c :: cs) = k.join (c.holds context) (joined context k cs) := rfl

theorem joined_and (cs : List Condition) : joined context .and cs = allHold context cs := by
  induction cs with
  | nil => rfl
  | cons c cs ih => rw [joined_cons, ih, allHold, Connective.join]

theorem joined_or (cs : List Condition) : joined context .or cs = anyHolds context cs := by
  induction cs with
  | nil => rfl
  | cons c cs ih => rw [joined_cons, ih, anyHolds, Connective.join]

theorem holds_mk (field : String) (o : Operator) (value : Value) (k : Option Connective)
    (nested : List Condition) : (mk field o value k nested).holds context =
      (k.getD .and).join (holdsAlone context field o value)
        (joined context (k.getD .and) nested) := by
  cases nested with
  | nil => rw [holds, joined_nil, Connective.join_unit, List.isEmpty_nil, if_pos rfl]
  | cons c cs =>
    rw [holds]
    cases k.getD .and with
    | and => rw [joined_and]; rfl
    | or => rw [joined_or]; rfl

@[simp] theorem holds_test (field : String) (o : Operator) (value : Value) :
    (test field o value).holds context = holdsAlone context field o value := by
  rw [test, holds_mk, joined_nil, Connective.join_unit]

theorem joined_append (k : Connective) (cs ds : List Condition) :
    joined context k (cs ++ ds) = k.join (joined context k cs) (joined context k ds) := by
  induction cs with
  | nil => cases k <;> rfl
  | cons c cs ih =>
    rw [List.cons_append, joined_cons, joined_cons, ih]
    cases k <;> simp [Connective.join, Bool.and_assoc, Bool.or_assoc]

theorem joined_perm {k : Connective} {cs ds : List Condition} (h : cs.Perm ds) :
    joined context k cs = joined context k ds := by
  induction h with
  | nil => rfl
  | cons c _ ih => rw [joined_cons, joined_cons, ih]
  | swap c d cs => exact k.join_left_comm _ _ _
  | trans _ _ ih ih' => exact ih.trans ih'

section Monotone

/-- Conditions of one shape, where each of the second ones holds alone in its context if the
one in its place among the first does. -/
inductive Relaxed (context context' : Value) : List Condition → List Condition → Prop where
  | nil : Relaxed context context' [] []
  | cons {field field' : String} {o o' : Operator} {value value' : Value}
      {k : Option Connective} {nested nested' cs cs' : List Condition}
      (own : holdsAlone context field o value = true → holdsAlone context' field' o' value' = true)
      (below : Relaxed context context' nested nested') (rest : Relaxed context context' cs cs') :
      Relaxed context context' (mk field o value k nested :: cs)
        (mk field' o' value' k nested' :: cs')

/-- The second conditions are the first ones, some with an operator of a name that no test has. -/
inductive Unlearned : List Condition → List Condition → Prop where
  | nil : Unlearned [] []
  | kept {field : String} {o : Operator} {value : Value} {k : Option Connective}
      {nested nested' cs cs' : List Condition} (below : Unlearned nested nested')
      (rest : Unlearned cs cs') :
      Unlearned (mk field o value k nested :: cs) (mk field o value k nested' :: cs')
  | renamed {field name : String} {o : Operator} {value : Value} {k : Option Connective}
      {nested nested' cs cs' : List Condition} (unknown : Operator.ofName name = .unknown name)
      (below : Unlearned nested nested') (rest : Unlearned cs cs') :
      Unlearned (mk field o value k nested :: cs)
        (mk field (Operator.ofName name) value k nested' :: cs')

theorem joined_relaxed {context' : Value} {cs cs' : List Condition}
    (h : Relaxed context context' cs cs') (k : Connective) :
    joined context k cs = true → joined context' k cs' = true := by
  induction h generalizing k with
  | nil => exact id
  | cons own below rest ihbelow ihrest =>
    rw [joined_cons, joined_cons, holds_mk, holds_mk]
    exact k.join_mono (Connective.join_mono _ own (ihbelow _)) (ihrest k)

theorem holdsAlone_unknown (field name : String) (value : Value) :
    holdsAlone context field (.unknown name) value = true := rfl

theorem Unlearned.relaxed {cs cs' : List Condition} (h : Unlearned cs cs') :
    Relaxed context context cs cs' := by
  induction h with
  | nil => exact .nil
  | kept _ _ ihbelow ihrest => exact .cons id ihbelow ihrest
  | renamed unknown _ _ ihbelow ihrest =>
    rw [unknown]
    exact .cons (fun _ => holdsAlone_unknown _ _ _) ihbelow ihrest

/-- Where each condition holds alone that did before, all that held still hold. So it is where
operators become unknown, at whatever depth. -/
theorem allHold_relaxed {cs cs' : List Condition} :
    (∀ context context', Relaxed context context' cs cs' →
      allHold context cs = true → allHold context' cs' = true) ∧
    (Unlearned cs cs' → ∀ context, allHold context cs = true → allHold context cs' = true) := by
  have hmono : ∀ context context', Relaxed context context' cs cs' →
      allHold context cs = true → allHold context' cs' = true := by
    intro context context' h
    rw [← joined_and, ← joined_and]
    exact joined_relaxed h .and
  exact ⟨hmono, fun h context => hmono context context h.relaxed⟩

def offerConditions : List Condition := [
  { field := "user.tier", operator := .equals, value := .text "gold", connective := some .or,
    nested := [test "feature.beta" .equals (.bool true)] },
  test "cart" .exists .null]

def newerConditions : List Condition := [
  { field := "user.tier", operator := .equals, value := .text "gold", connective := some .or,
    nested := [test "feature.beta" (.ofName "startsWith") (.bool true)] },
  test "cart" (.ofName "fits") .null]

theorem offerConditions_unlearned : Unlearned offerConditions newerConditions ∧
    let tester := Value.object [("cart", .list []), ("feature", .object [("beta", .bool true)])]
    let member := Value.object [("cart", .list []), ("user", .object [("tier", .text "gold")])]
    allHold tester offerConditions = true ∧ allHold tester newerConditions = true ∧
      Relaxed tester member [test "cart" .exists .null] [test "user.tier" .equals (.text "gold")] ∧
      allHold member [test "user.tier" .equals (.text "gold")] = true := by
  have hnewer : Unlearned offerConditions newerConditions :=
    .kept (.renamed rfl .nil .nil) (.renamed rfl .nil .nil)
  have hrelaxed : Relaxed
      (.object [("cart", .list []), ("feature", .object [("beta", .bool true)])])
      (.object [("cart", .list []), ("user", .object [("tier", .text "gold")])])
      [test "cart" .exists .null] [test "user.tier" .equals (.text "gold")] :=
    .cons (fun _ => by decide) .nil .nil
  exact ⟨hnewer, by decide, allHold_relaxed.2 hnewer _ (by decide), hrelaxed,
    allHold_relaxed.1 _ _ hrelaxed (by decide)⟩

end Monotone

section Rearranged

/-- Lists of conditions under a connective that differ, at any depth, in their sequence and in
conjunctions that are taken apart inside a conjunction. -/
inductive Rearranged : Connective → List Condition → List Condition → Prop where
  | perm {k : Connective} {cs ds : List Condition} (h : cs.Perm ds) : Rearranged k cs ds
  | cons {k : Connective} {field : String} {o : Operator} {value : Value}
      {own : Option Connective} {nested nested' cs cs' : List Condition}
      (below : Rearranged (own.getD .and) nested nested') (rest : Rearranged k cs cs') :
      Rearranged k (mk field o value own nested :: cs) (mk field o value own nested' :: cs')
  | splice {field : String} {o : Operator} {value : Value} {own : Option Connective}
      {nested cs : List Condition} (conjunction : own.getD .and = .and) :
      Rearranged .and (mk field o value own nested :: cs) (test field o value :: nested ++ cs)
  | symm {k : Connective} {cs ds : List Condition} (h : Rearranged k cs ds) : Rearranged k ds cs
  | trans {k : Connective} {cs ds es : List Condition} (h : Rearranged k cs ds)
      (h' : Rearranged k ds es) : Rearranged k cs es

theorem joined_rearranged {k : Connective} {cs ds : List Condition} (h : Rearranged k cs ds) :
    joined context k cs = joined context k ds := by
  induction h with
  | perm h => exact joined_perm h
  | cons _ _ ihbelow ihrest =>
    rw [joined_cons, joined_cons, holds_mk, holds_mk, ihbelow, ihrest]
  | splice conjunction =>
    rw [List.cons_append, joined_cons, joined_cons, joined_append, holds_mk, holds_test,
      conjunction]
    exact Bool.and_assoc _ _ _
  | symm _ ih => exact ih.symm
  | trans _ _ ih ih' => exact ih.trans ih'

mutual

/-- No connective in the tree is a disjunction. -/
def Conjunctive : Condition → Prop
  | .mk _ _ _ k nested => k.getD .and = .and ∧ ConjunctiveAll nested

def ConjunctiveAll : List Condition → Prop
  | [] => True
  | c :: cs => c.Conjunctive ∧ ConjunctiveAll cs

end

mutual

/-- The tests of a tree without what joins them. -/
def flatTests : Condition → List Condition
  | .mk field o value _ nested => test field o value :: flatTestsOf nested

def flatTestsOf : List Condition → List Condition
  | [] => []
  | c :: cs => c.flatTests ++ flatTestsOf cs

end

mutual

theorem allHold_flatTests : ∀ {c : Condition}, c.Conjunctive →
    allHold context c.flatTests = c.holds context
  | .mk field o value k nested, ⟨hk, hnested⟩ => by
    rw [flatTests, allHold, holds_test, allHold_flatTestsOf hnested, holds_mk, hk, joined_and]
    rfl

theorem allHold_flatTestsOf : ∀ {cs : List Condition}, ConjunctiveAll cs →
    allHold context (flatTestsOf cs) = allHold context cs
  | [], _ => rfl
  | c :: cs, ⟨hc, hcs⟩ => by
    rw [flatTestsOf, ← joined_and, joined_append, joined_and, joined_and, allHold_flatTests hc,
      allHold_flatTestsOf hcs, allHold]
    rfl

end

/-- What holds does not depend on how conditions are arranged, and without disjunctions they
hold just when each test in them does. -/
theorem allHold_rearranged {cs ds : List Condition} :
    (Rearranged .and cs ds → ∀ context, allHold context cs = allHold context ds) ∧
    (ConjunctiveAll cs → ∀ context,
      allHold context cs = (flatTestsOf cs).all (·.holds context)) := by
  constructor
  · intro h context
    rw [← joined_and, ← joined_and]
    exact joined_rearranged h
  · intro h context
    rw [← allHold_eq_all, allHold_flatTestsOf h]

def nestedConditions : List Condition := [
  { field := "cart", operator := .exists, value := .null, nested := [
    test "user" .exists .null,
    { field := "feature.beta", operator := .equals, value := .bool true, connective := some .or,
      nested := [test "user.tier" .equals (.text "gold"), test "region" .exists .null] }] },
  test "region" .isIn (.list [.text "eu"])]

def flatConditions : List Condition := [
  test "region" .isIn (.list [.text "eu"]),
  test "cart" .exists .null,
  test "user" .exists .null,
  { field := "feature.beta", operator := .equals, value := .bool true, connective := some .or,
    nested := [test "region" .exists .null, test "user.tier" .equals (.text "gold")] }]

def cartConditions : List Condition := [
  { field := "cart", operator := .exists, value := .null, nested := [
    { field := "feature.beta", operator := .equals, value := .bool true, connective := some .and,
      nested := [test "region" .exists .null] },
    test "user" .exists .null] }]

theorem nestedConditions_rearranged : Rearranged .and nestedConditions flatConditions ∧
    (∀ context, allHold context nestedConditions = allHold context flatConditions) ∧
    ConjunctiveAll cartConditions ∧ ∀ context, allHold context cartConditions =
      [test "cart" .exists .null, test "feature.beta" .equals (.bool true),
        test "region" .exists .null, test "user" .exists .null].all (·.holds context) := by
  have hinside : Rearranged .and
      [test "region" .isIn (.list [.text "eu"]), test "cart" .exists .null,
        test "user" .exists .null,
        { field := "feature.beta", operator := .equals, value := .bool true, connective := some .or,
          nested := [test "user.tier" .equals (.text "gold"), test "region" .exists .null] }]
      flatConditions :=
    .cons (.perm .nil) (.cons (.perm .nil) (.cons (.perm .nil)
      (.cons (.perm (.swap _ _ _)) (.perm .nil))))
  have hrearranged : Rearranged .and nestedConditions flatConditions :=
    .trans (.splice rfl) (.trans (.perm List.perm_append_comm) hinside)
  have hconjunctive : ConjunctiveAll cartConditions :=
    ⟨⟨rfl, ⟨rfl, ⟨rfl, trivial⟩, trivial⟩, ⟨rfl, trivial⟩, trivial⟩, trivial⟩
  exact ⟨hrearranged, allHold_rearranged.1 hrearranged, hconjunctive,
    (@allHold_rearranged cartConditions []).2 hconjunctive⟩

end Rearranged

end Condition

end PageConfig
