import FormLang.Calls.Basic

/-!
# Logical functions

Equality, comparison, the connectives and the choice. A comparison with anything but numbers is
false, and anything but a boolean counts as false.
-/

namespace FormLang.Calls.Logical

/-- Whether two numbers compare; false unless both arguments are numbers. -/
def compare (rel : Binary64 → Binary64 → Bool) (args : Arguments) : Value :=
  match args.number? 0, args.number? 1 with
  | some x, some y => .boolean (rel x y)
  | _, _ => .boolean false

/-- Whether a value is true. -/
def isTrue : Value → Bool
  | .boolean b => b
  | _ => false

/-- Calls a logical function. -/
def call (f : Builtin) (args : Arguments) : Except CallError Value :=
  match f with
  | .equals => .ok (.boolean ((args.value 0).same (args.value 1)))
  | .notEquals => .ok (.boolean (!(args.value 0).same (args.value 1)))
  | .not => .ok (.boolean (!isTrue (args.value 0)))
  | .greaterThan => .ok (compare (fun x y => y.lt x) args)
  | .greaterThanEq => .ok (compare (fun x y => y.le x) args)
  | .lessThan => .ok (compare Binary64.lt args)
  | .lessThanEq => .ok (compare Binary64.le args)
  | .and => .ok (.boolean (args.all isTrue))
  | .or => .ok (.boolean (args.any isTrue))
  | .ifElse => .ok (if isTrue (args.value 0) then args.value 1 else args.value 3)
  | _ => .error (.foreign .logical f)

end FormLang.Calls.Logical
