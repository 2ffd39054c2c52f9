import HandlerStudio.Text.Characters

/-!
# Targets of code generation

A target is a language together with one of its frameworks. `Target.catalog` lists them all, and
`Target.parse` reads `language/framework`, or a language alone for its first framework.
-/

namespace HandlerStudio

inductive Language where
  | typescript
  | python
  | rust
  | go
  | java
  | csharp
deriving DecidableEq, Repr

inductive Framework where
  | express
  | fastify
  | hono
  | nestjs
  | fastapi
  | flask
  | django
  | axum
  | actixWeb
  | gin
  | echo
  | chi
  | springBoot
  | aspnetCore
deriving DecidableEq, Repr

inductive TargetError where
  | unknownLanguage (name : String)
  | unknownFramework (name : String)
  | unsupported (language : Language) (framework : Framework)
  | malformed (text : String)
deriving DecidableEq, Repr

namespace Language

def all : List Language := [.typescript, .python, .rust, .go, .java, .csharp]

def name : Language → String
  | .typescript => "typescript"
  | .python => "python"
  | .rust => "rust"
  | .go => "go"
  | .java => "java"
  | .csharp => "csharp"

/-- The ending of file names. -/
def extension : Language → String
  | .typescript => "ts"
  | .python => "py"
  | .rust => "rs"
  | .go => "go"
  | .java => "java"
  | .csharp => "cs"

def defaultFramework : Language → Framework
  | .typescript => .express
  | .python => .fastapi
  | .rust => .axum
  | .go => .gin
  | .java => .springBoot
  | .csharp => .aspnetCore

/-- The frameworks after the default one. -/
def otherFrameworks : Language → List Framework
  | .typescript => [.fastify, .hono, .nestjs]
  | .python => [.flask, .django]
  | .rust => [.actixWeb]
  | .go => [.echo, .chi]
  | .java => []
  | .csharp => []

def frameworks (l : Language) : List Framework := l.defaultFramework :: l.otherFrameworks

def supports (l : Language) (f : Framework) : Bool := l.frameworks.contains f

/-- Other names that are understood. -/
def alias? (name : String) : Option Language :=
  if name = "ts" then some .typescript
  else if name = "py" then some .python
  else if name = "c#" ∨ name = "cs" then some .csharp
  else none

/-- The language with a name in small letters. -/
def ofName? (name : String) : Option Language :=
  (alias? name).or (all.find? fun l => l.name == name)

/-- Read a name in any case, with blanks around it. -/
def parse (text : String) : Except TargetError Language :=
  match ofName? (Text.asciiLower (Text.trim text)) with
  | some l => .ok l
  | none => .error (.unknownLanguage text)

end Language

namespace Framework

def all : List Framework :=
  [.express, .fastify, .hono, .nestjs, .fastapi, .flask, .django, .axum, .actixWeb, .gin, .echo,
  .chi, .springBoot, .aspnetCore]

def name : Framework → String
  | .express => "express"
  | .fastify => "fastify"
  | .hono => "hono"
  | .nestjs => "nestjs"
  | .fastapi => "fastapi"
  | .flask => "flask"
  | .django => "django"
  | .axum => "axum"
  | .actixWeb => "actix-web"
  | .gin => "gin"
  | .echo => "echo"
  | .chi => "chi"
  | .springBoot => "spring-boot"
  | .aspnetCore => "aspnet-core"

/-- The language that a framework belongs to. -/
def language : Framework → Language
  | .express | .fastify | .hono | .nestjs => .typescript
  | .fastapi | .flask | .django => .python
  | .axum | .actixWeb => .rust
  | .gin | .echo | .chi => .go
  | .springBoot => .java
  | .aspnetCore => .csharp

/-- The framework with a name in small letters. -/
def ofName? (name : String) : Option Framework :=
  all.find? fun f => f.name == name

/-- Read a name in any case, with blanks around it. -/
def parse (text : String) : Except TargetError Framework :=
  match ofName? (Text.asciiLower (Text.trim text)) with
  | some f => .ok f
  | none => .error (.unknownFramework text)

/-- A language supports exactly the frameworks that belong to it. -/
theorem supports_iff_language (l : Language) (f : Framework) :
    l.supports f = true ↔ f.language = l := by
  cases l <;> cases f <;> decide

end Framework

def TargetError.message : TargetError → String
  | .unknownLanguage name => "unknown language: " ++ name
  | .unknownFramework name => "unknown framework: " ++ name
  | .unsupported language framework =>
      framework.name ++ " is not a " ++ language.name ++ " framework"
  | .malformed text => "malformed target '" ++ text ++ "', expected language/framework"

/-- A language and one of its frameworks. -/
structure Target where
  language : Language
  framework : Framework
  supported : language.supports framework = true
deriving DecidableEq

namespace Target

/-- The pair, if the framework belongs to the language. -/
def make (language : Language) (framework : Framework) : Except TargetError Target :=
  if h : language.supports framework = true then .ok ⟨language, framework, h⟩
  else .error (.unsupported language framework)

/-- A language with its first framework. -/
def ofLanguage (language : Language) : Target where
  language := language
  framework := language.defaultFramework
  supported := by cases language <;> rfl

/-- What is targeted unless something else is asked for. -/
def default : Target := ofLanguage .typescript

instance : Inhabited Target := ⟨default⟩

/-- The target as text. -/
def text (t : Target) : String := t.language.name ++ "/" ++ t.framework.name

/-- Every target, by language. -/
def catalog : List Target :=
  Language.all.flatMap fun l =>
    l.frameworks.filterMap fun f => if h : l.supports f = true then some ⟨l, f, h⟩ else none

/-- The pieces of a text between slashes. -/
def pieces (text : String) : List (List Char) :=
  text.toList.splitOn '/'

/-- Read a target. -/
def parse (text : String) : Except TargetError Target :=
  match pieces text with
  | [language] =>
      if (Text.trimChars language).isEmpty then .error (.malformed text)
      else do return ofLanguage (← Language.parse (String.ofList language))
  | [language, framework] => do
      let language ← Language.parse (String.ofList language)
      let framework ← Framework.parse (String.ofList framework)
      make language framework
  | _ => .error (.malformed text)

end Target

end HandlerStudio
