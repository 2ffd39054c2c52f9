/-!
# Kinds and tiers of nodes

A node is of one of twenty-four kinds. Each kind has a name in stored documents, a short name, a
label for people, and a category; the category gives the tier, which says how portable a node is.
-/

namespace HandlerStudio

/-- How portable a node is, from code that runs everywhere to code of one language. -/
inductive Tier where
  | universal
  | domain
  | specialized
  | native
deriving DecidableEq, Repr

namespace Tier

def all : List Tier := [.universal, .domain, .specialized, .native]

def toNat : Tier → Nat
  | .universal => 0
  | .domain => 1
  | .specialized => 2
  | .native => 3

def ofNat? : Nat → Option Tier
  | 0 => some .universal
  | 1 => some .domain
  | 2 => some .specialized
  | 3 => some .native
  | _ => none

def label : Tier → String
  | .universal => "universal"
  | .domain => "domain"
  | .specialized => "specialized"
  | .native => "native"

@[simp] theorem ofNat?_toNat (t : Tier) : ofNat? t.toNat = some t := by cases t <;> rfl

theorem toNat_of_ofNat? {n : Nat} {t : Tier} (h : ofNat? n = some t) : t.toNat = n := by
  unfold ofNat? at h
  split at h <;> simp_all <;> subst h <;> rfl

end Tier

/-- What a node is for. -/
inductive Category where
  | statement
  | expression
  | domain
  | bridge
deriving DecidableEq, Repr

namespace Category

def all : List Category := [.statement, .expression, .domain, .bridge]

def name : Category → String
  | .statement => "statement"
  | .expression => "expression"
  | .domain => "domain"
  | .bridge => "bridge"

/-- The tier of new nodes of a category. -/
def tier : Category → Tier
  | .statement => .universal
  | .expression => .universal
  | .domain => .domain
  | .bridge => .native

end Category

inductive Kind where
  | letStatement
  | ifStatement
  | forStatement
  | whileStatement
  | returnStatement
  | tryCatchStatement
  | throwStatement
  | matchStatement
  | literal
  | identifier
  | binaryExpression
  | callExpression
  | memberExpression
  | objectExpression
  | arrayExpression
  | templateLiteral
  | dbQuery
  | dbMutate
  | httpRespond
  | ctxGet
  | validate
  | hashPassword
  | signToken
  | nativeBridge
deriving DecidableEq, Repr

namespace Kind

def all : List Kind :=
  [.letStatement, .ifStatement, .forStatement, .whileStatement, .returnStatement,
  .tryCatchStatement, .throwStatement, .matchStatement, .literal, .identifier,
  .binaryExpression, .callExpression, .memberExpression, .objectExpression, .arrayExpression,
  .templateLiteral, .dbQuery, .dbMutate, .httpRespond, .ctxGet, .validate, .hashPassword,
  .signToken, .nativeBridge]

/-- The name in stored documents. -/
def typeName : Kind → String
  | .letStatement => "LetStatement"
  | .ifStatement => "IfStatement"
  | .forStatement => "ForStatement"
  | .whileStatement => "WhileStatement"
  | .returnStatement => "ReturnStatement"
  | .tryCatchStatement => "TryCatchStatement"
  | .throwStatement => "ThrowStatement"
  | .matchStatement => "MatchStatement"
  | .literal => "Literal"
  | .identifier => "Identifier"
  | .binaryExpression => "BinaryExpression"
  | .callExpression => "CallExpression"
  | .memberExpression => "MemberExpression"
  | .objectExpression => "ObjectExpression"
  | .arrayExpression => "ArrayExpression"
  | .templateLiteral => "TemplateLiteral"
  | .dbQuery => "DbQuery"
  | .dbMutate => "DbMutate"
  | .httpRespond => "HttpRespond"
  | .ctxGet => "CtxGet"
  | .validate => "Validate"
  | .hashPassword => "HashPassword"
  | .signToken => "SignToken"
  | .nativeBridge => "NativeBridge"

/-- The name used in palettes and accepted beside the stored one. -/
def shortName : Kind → String
  | .letStatement => "let"
  | .ifStatement => "if"
  | .forStatement => "for"
  | .whileStatement => "while"
  | .returnStatement => "return"
  | .tryCatchStatement => "try-catch"
  | .throwStatement => "throw"
  | .matchStatement => "match"
  | .literal => "literal"
  | .identifier => "identifier"
  | .binaryExpression => "binary"
  | .callExpression => "call"
  | .memberExpression => "member"
  | .objectExpression => "object"
  | .arrayExpression => "array"
  | .templateLiteral => "template"
  | .dbQuery => "db-query"
  | .dbMutate => "db-mutate"
  | .httpRespond => "http-respond"
  | .ctxGet => "ctx-get"
  | .validate => "validate"
  | .hashPassword => "hash-password"
  | .signToken => "sign-token"
  | .nativeBridge => "native-bridge"

/-- The name shown to people. -/
def label : Kind → String
  | .letStatement => "Let"
  | .ifStatement => "If"
  | .forStatement => "For Each"
  | .whileStatement => "While"
  | .returnStatement => "Return"
  | .tryCatchStatement => "Try / Catch"
  | .throwStatement => "Throw"
  | .matchStatement => "Match"
  | .literal => "Literal"
  | .identifier => "Identifier"
  | .binaryExpression => "Binary"
  | .callExpression => "Call"
  | .memberExpression => "Member Access"
  | .objectExpression => "Object"
  | .arrayExpression => "Array"
  | .templateLiteral => "Template"
  | .dbQuery => "DB Query"
  | .dbMutate => "DB Mutate"
  | .httpRespond => "HTTP Respond"
  | .ctxGet => "Context Get"
  | .validate => "Validate"
  | .hashPassword => "Hash Password"
  | .signToken => "Sign Token"
  | .nativeBridge => "Native Bridge"

def category : Kind → Category
  | .letStatement | .ifStatement | .forStatement | .whileStatement | .returnStatement
  | .tryCatchStatement | .throwStatement | .matchStatement => .statement
  | .literal | .identifier | .binaryExpression | .callExpression | .memberExpression
  | .objectExpression | .arrayExpression | .templateLiteral => .expression
  | .dbQuery | .dbMutate | .httpRespond | .ctxGet | .validate | .hashPassword
  | .signToken => .domain
  | .nativeBridge => .bridge

/-- The tier of new nodes of a kind. -/
def tier (k : Kind) : Tier := k.category.tier

/-- The kind with a stored or short name. -/
def ofName? (name : String) : Option Kind :=
  all.find? fun k => k.typeName == name || k.shortName == name

/-- Every kind is in the list. -/
theorem mem_all (k : Kind) : k ∈ all := by cases k <;> decide

/-- Each kind is found by its stored name. -/
@[simp] theorem ofName?_typeName (k : Kind) : ofName? k.typeName = some k := by
  cases k <;> decide

/-- Each kind is found by its short name. -/
@[simp] theorem ofName?_shortName (k : Kind) : ofName? k.shortName = some k := by
  cases k <;> decide

end Kind

end HandlerStudio
