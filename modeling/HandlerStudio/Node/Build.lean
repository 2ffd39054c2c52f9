import HandlerStudio.Node.Basic
import HandlerStudio.Node.Error

/-!
# Building nodes

One function for each common node, from its identity and its parts.
-/

namespace HandlerStudio

/-- A double as a value; a number that has none is null. -/
def Value.ofDouble? : Option Double → Value
  | some x => .number (.float x)
  | none => .null

namespace Node

def letStatement (id : NodeId) (name : String) (value : Option Node) : Node :=
  (new id .letStatement).withField "name" (.text name) |>.withField "value" (.ofNode? value)

def ifStatement (id : NodeId) (condition : Option Node) (body : List Node) : Node :=
  (new id .ifStatement).withField "condition" (.ofNode? condition)
    |>.withField "body" (.nodes body)

def forStatement (id : NodeId) (variableName : String) (iterable : Option Node)
    (body : List Node) : Node :=
  (new id .forStatement).withField "variable" (.text variableName)
    |>.withField "iterable" (.ofNode? iterable)
    |>.withField "body" (.nodes body)

def tryCatch (id : NodeId) (tryBody : List Node) (catchParam : String) (catchBody : List Node) :
    Node :=
  (new id .tryCatchStatement).withField "tryBody" (.nodes tryBody)
    |>.withField "catchParam" (.text catchParam)
    |>.withField "catchBody" (.nodes catchBody)

def returnStatement (id : NodeId) (value : Option Node) : Node :=
  (new id .returnStatement).withField "value" (.ofNode? value)

def literal (id : NodeId) (value : Value) : Node :=
  (new id .literal).withField "value" value

def identifier (id : NodeId) (name : String) : Node :=
  (new id .identifier).withField "name" (.text name)

def binary (id : NodeId) (operator : String) (left right : Node) : Node :=
  (new id .binaryExpression).withField "operator" (.text operator)
    |>.withField "left" (.node left)
    |>.withField "right" (.node right)

def call (id : NodeId) (callee : Node) (arguments : List Node) : Node :=
  (new id .callExpression).withField "callee" (.node callee)
    |>.withField "arguments" (.nodes arguments)

def member (id : NodeId) (object : Node) (property : String) : Node :=
  (new id .memberExpression).withField "object" (.node object)
    |>.withField "property" (.text property)

def array (id : NodeId) (elements : List Node) : Node :=
  (new id .arrayExpression).withField "elements" (.nodes elements)

def dbQuery (id : NodeId) (model operation : String) : Node :=
  (new id .dbQuery).withField "model" (.text model) |>.withField "operation" (.text operation)

def dbMutate (id : NodeId) (model operation : String) (data : Option Node) : Node :=
  (new id .dbMutate).withField "model" (.text model)
    |>.withField "operation" (.text operation)
    |>.withField "data" (.ofNode? data)

def httpRespond (id : NodeId) (status : Int) (body : Option Node) : Node :=
  (new id .httpRespond).withField "status" (.number (.int status))
    |>.withField "body" (.ofNode? body)

def ctxGet (id : NodeId) (source key : String) : Node :=
  (new id .ctxGet).withField "source" (.text source) |>.withField "key" (.text key)

def nativeBridge (id : NodeId) (language code : String) : Node :=
  (new id .nativeBridge).withField "language" (.text language)
    |>.withField "code" (.text code)

/-- A node of the kind with a name. -/
def ofTypeName (id : NodeId) (name : String) : Except NodeError Node :=
  match Kind.ofName? name with
  | some kind => .ok (new id kind)
  | none => .error (.unknownType name)

end Node

end HandlerStudio
