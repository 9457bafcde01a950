import MoveClient.Argument.Marshal
import MoveClient.Transaction.EntryFunction
import MoveClient.TypeTag.Parser
import MoveClient.Value.Access
import MoveClient.Value.Layout

/-!
Calls made from plain values.

Arguments are encoded one by one, either in layouts that the caller names, or by the parameter
types of the function's interface as a node publishes it. Leading parameters that take a signer
get no argument.
-/

namespace MoveClient

/-- What a node publishes about a function: how many type parameters it has, and the list of the
texts of its parameter types, unless it is left out. -/
structure FunctionInterface where
  typeParameters : Nat
  parameters : Option Value
deriving Repr

/-- A type argument, as a type or as its text. -/
inductive TypeArgument where
  | tag (tag : TypeTag)
  | text (text : String)
deriving Repr

namespace TypeArgument

/-- The type; the text of one holds no type parameters. -/
def resolve : TypeArgument → Except Error TypeTag
  | tag given => .ok given
  | text spelled => TypeTag.parse spelled false

end TypeArgument

namespace FunctionInterface

/-- The items of a value that has to have some. -/
def itemsOf (value : Value) : Except Error (List Value) :=
  match value.items? with
  | some items => .ok items
  | none => .error .wrongKind

/-- The interface in the description of a single function. -/
def ofDescription (description : Value) : Except Error FunctionInterface := do
  let typeParameters ←
    match description, description.field? "generic_type_params" with
    | .map _, some parameters => List.length <$> itemsOf parameters
    | .map _, none => .ok 0
    | _, _ => .error .wrongKind
  .ok ⟨typeParameters, description.field? "params"⟩

/-- The description of a function in the description of its module, or the description itself if
it is not one of a module. -/
def describe (function : String) (description : Value) : Except Error Value :=
  match description.field? "exposed_functions" with
  | none => .ok description
  | some functions => do
      let named ← (← itemsOf functions).mapM fun candidate => do
        let name ← candidate.required "name"
        Except.ok (name, candidate)
      match named.find? fun entry => entry.1.same (.text function) with
      | some entry => .ok entry.2
      | none => .error (.parse (.functionNotFound function))

/-- The type that a parameter is described by; type parameters may occur in it. A half of a
character is as little part of a type as the character that is shown for it. -/
def parameterType : Value → Except Error TypeTag
  | .text spelled => TypeTag.parse spelled true
  | .brokenText broken => TypeTag.parse broken.shown true
  | _ => .error .wrongKind

/-- The types of the parameters that take an argument. -/
def argumentTypes (interface : FunctionInterface) : Except Error (List TypeTag) :=
  match interface.parameters with
  | none => .error .missingField
  | some parameters => do
      let types ← (← itemsOf parameters).mapM parameterType
      .ok (types.dropWhile TypeTag.isSigner)

end FunctionInterface

namespace EntryFunction

/-- A call with each argument in the layout given for it. -/
def natural (module function : String) (typeArguments : List TypeTag)
    (arguments : List (Layout × Value)) : Except Error EntryFunction := do
  let target ← ModuleId.parse module
  let encoded ← arguments.mapM fun argument => (argument.1.write argument.2).result
  .ok ⟨target, function, typeArguments, encoded⟩

/-- A call with arguments encoded by the interface in a description of the module or of the
function. -/
def ofInterface (module function : String) (typeArguments : List TypeArgument)
    (arguments : List Value) (description : Value) : Except Error EntryFunction := do
  let interface ← FunctionInterface.ofDescription (← FunctionInterface.describe function description)
  if interface.typeParameters ≠ typeArguments.length then
    .error (.parse
      (.typeArgumentCount module function interface.typeParameters typeArguments.length))
  else do
    let bindings ← typeArguments.mapM TypeArgument.resolve
    let types ← interface.argumentTypes
    if types.length ≠ arguments.length then
      .error (.parse (.argumentCount module function types.length arguments.length))
    else do
      let encoded ← (types.zip arguments).mapM fun parameter =>
        parameter.2.marshal parameter.1 bindings
      let target ← ModuleId.parse module
      .ok ⟨target, function, bindings, encoded⟩

end EntryFunction

end MoveClient
