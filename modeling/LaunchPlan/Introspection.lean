import LaunchPlan.Class
import LaunchPlan.Text.Quoted

/-! # Introspection

Code that is handed something unknown asks whether it is an instance of a class, or a
class that derives from another.  `isA` and `isASubclass` answer that, or say what is
wrong with the question: `isA` looks at the object first, `isASubclass` at the class.
-/
namespace LaunchPlan

/-- A value that is neither an instance nor a class. -/
inductive Scalar where
  /-- A number. -/
  | number (n : Int)
  /-- A text. -/
  | text (s : String)
  /-- A truth value. -/
  | truth (b : Bool)

/-- A scalar in words. -/
def Scalar.describe : Scalar → String
  | number n => toString n
  | text s => Text.quote s
  | truth b => if b then "true" else "false"

/-- Something handed to the introspection functions. -/
inductive Object where
  /-- An instance of a class. -/
  | instanceOf (c : Class)
  /-- A class. -/
  | classRef (c : Class)
  /-- Anything else. -/
  | scalar (s : Scalar)

/-- An object in words. -/
def Object.describe : Object → String
  | instanceOf c => "<" ++ c.name ++ " instance>"
  | classRef c => c.reference
  | scalar s => s.describe

/-- What is wrong with a question about classes. -/
inductive IntrospectionError where
  /-- The object is not an instance. -/
  | notAnInstance (object : Object)
  /-- What should be a class is none. -/
  | notAClass (object : Object)

/-- The wording of an introspection error. -/
def IntrospectionError.message : IntrospectionError → String
  | notAnInstance o => "obj '" ++ o.describe ++ "' is not a class instance"
  | notAClass o => "entity_type '" ++ o.describe ++ "' is not a class"

namespace Object

/-- The class that an object is. -/
def expectClass : Object → Except IntrospectionError Class
  | classRef c => .ok c
  | o => .error (.notAClass o)

/-- The class that an object is an instance of. -/
def expectInstance : Object → Except IntrospectionError Class
  | instanceOf c => .ok c
  | o => .error (.notAnInstance o)

/-- Whether an object is an instance of a class or of one that derives from it. -/
def isA (object ofClass : Object) : Except IntrospectionError Bool := do
  let c ← object.expectInstance
  let d ← ofClass.expectClass
  .ok (c.derivesFrom d)

/-- Whether an object is an instance of a class, or a class, that is or derives from the
class; a scalar is neither. -/
def isASubclass (object ofClass : Object) : Except IntrospectionError Bool := do
  let d ← ofClass.expectClass
  match object with
  | instanceOf _ => object.isA ofClass
  | classRef c => .ok (c.derivesFrom d)
  | scalar _ => .ok false

end Object
end LaunchPlan
