import RouteWrap.Syntax.Kind
import RouteWrap.Syntax.Tree

/-!
What can be wrong with the text of a module. `Fault` lists the causes; `Fault.message` is the one
place that words them. A `Diagnostic` is a fault with the place it is shown at.
-/

namespace RouteWrap

inductive TypedConstruct
  | assertion | satisfaction | importEquals | exportAssignment | implementsClause | nonNull
deriving DecidableEq, Repr, Inhabited

inductive Fault
  | unexpected
  | annotatedTypes
  | expected (wanted found : Kind)
  | expectedEither (first second : Kind) (found : Kind)
  | semicolon
  | invalidCharacter (c : Char)
  | endOfFile
  | numberEnd
  | invalidEscape
  | unicodeEscape
  | unterminatedString
  | unterminatedComment
  | unterminatedRegex
  | regexFlag (c : Char)
  | regexFlagTwice (c : Char)
  | templateEscape
  | escapedKeyword
  | newlineBeforeArrow
  | newlineAfter (word : String)
  | uninitializedPattern
  | uninitializedConst
  | uninitializedUsing
  | lexicalDeclaration
  | classDeclaration
  | asyncDeclaration
  | generatorDeclaration
  | returnOutside
  | awaitOutside
  | yieldOutside
  | asyncName (name : String)
  | generatorName (name : String)
  | reservedName (name : String)
  | reservedExport
  | stringExport
  | loneSurrogateExport
  | duplicateExport (name : String)
  | duplicateDefault
  | emptyParentheses
  | trailingComma (place : String)
  | optionalTemplate
  | optionalConstruct
  | constructImport
  | importMeta
  | newTarget
  | importArguments
  | nameAfterOptional
  | superValue
  | functionName
  | functionBody
  | catchOrFinally
  | getterParameters
  | setterParameters
  | lastRest
  | lastRestOfPattern
  | lastSpread
  | trailingRestComma
  | restElement
  | optionalRest
  | initializedRest
  | invalidTarget
  | coverInitializer
  | exponentiation
  | forOfAsync
  | forAwait
  | mixedCoalesce
  | staticPrototype
  | fieldConstructor
  | privateConstructor
  | accessorConstructor
  | asyncConstructor
  | generatorConstructor
  | modifierHere (word : String)
  | modifierSeen (word : String)
  | accessibilitySeen
  | modifierOrder (word before : String)
  | privateAccessibility
  | enumNumeric
  | enumComputed
  | typedOnly (c : TypedConstruct)
  | typeTwiceImport
  | typeTwiceExport
  | jsxHere
  | jsxText (mark : Char)
  | jsxHyphen
  | jsxClosing (name : String)
  | jsxEmptyAttribute
  | jsxSequence
  | thisParameter
  | emptyTypeParameters
  | emptyTypeArguments
  | implementsTwice
  | extendsTwice
  | extendsMany
deriving DecidableEq, Repr, Inhabited

namespace TypedConstruct

def message : TypedConstruct → String
  | assertion => "Type assertion expressions can only be used in TypeScript files."
  | satisfaction => "Type satisfaction expressions can only be used in TypeScript files."
  | importEquals => "'import ... =' can only be used in TypeScript files."
  | exportAssignment => "'export =' can only be used in TypeScript files."
  | implementsClause => "'implements' clauses can only be used in TypeScript files."
  | nonNull => "Non-null assertions can only be used in TypeScript files."

end TypedConstruct

namespace Fault

def quoted (s : String) : String :=
  "\x60" ++ s ++ "\x60"

/-- What to write instead of a character that text between tags may not hold. -/
def jsxReplacement (c : Char) : String :=
  if c == '>' then "&gt;" else "&rbrace;"

def message : Fault → String
  | unexpected => "Unexpected token"
  | annotatedTypes => "Flow is not supported"
  | expected w f => "Expected " ++ quoted w.shown ++ " but found " ++ quoted f.shown
  | expectedEither a b f =>
      "Expected " ++ quoted a.shown ++ " or " ++ quoted b.shown ++ " but found " ++ quoted f.shown
  | semicolon => "Expected a semicolon or an implicit semicolon after a statement, but found none"
  | invalidCharacter c => "Invalid Character " ++ quoted (String.singleton c)
  | endOfFile => "Unexpected end of file"
  | numberEnd => "Invalid characters after number"
  | invalidEscape => "Invalid escape sequence"
  | unicodeEscape => "Invalid Unicode escape sequence"
  | unterminatedString => "Unterminated string"
  | unterminatedComment => "Unterminated multiline comment"
  | unterminatedRegex => "Unterminated regular expression"
  | regexFlag c =>
      "Unexpected flag " ++ String.singleton c ++ " in regular expression literal"
  | regexFlagTwice c =>
      "Flag " ++ String.singleton c ++ " is mentioned twice in regular expression literal"
  | templateEscape => "Bad escape sequence in untagged template literal"
  | escapedKeyword => "Keywords cannot contain escape characters"
  | newlineBeforeArrow => "Line terminator not permitted before arrow"
  | newlineAfter w => "Illegal newline after " ++ w
  | uninitializedPattern => "Missing initializer in destructuring declaration"
  | uninitializedConst => "Missing initializer in const declaration"
  | uninitializedUsing => "Using declarations must have an initializer."
  | lexicalDeclaration => "Lexical declaration cannot appear in a single-statement context"
  | classDeclaration => "Invalid class declaration"
  | asyncDeclaration => "Async functions can only be declared at the top level or inside a block"
  | generatorDeclaration => "Generators can only be declared at the top level or inside a block"
  | returnOutside => "A 'return' statement can only be used within a function body."
  | awaitOutside =>
      quoted "await" ++ " is only allowed within async functions and at the top levels of modules"
  | yieldOutside => "A 'yield' expression is only allowed in a generator body."
  | asyncName n => "Cannot use " ++ quoted n ++ " as an identifier in an async context"
  | generatorName n => "Cannot use " ++ quoted n ++ " as an identifier in a generator context"
  | reservedName n =>
      "Identifier expected. '" ++ n ++ "' is a reserved word that cannot be used here."
  | reservedExport =>
      "A reserved word cannot be used as an exported binding without " ++ quoted "from"
  | stringExport =>
      "A string literal cannot be used as an exported binding without " ++ quoted "from"
  | loneSurrogateExport => "An export name cannot include a unicode lone surrogate"
  | duplicateExport n => "Duplicated export '" ++ n ++ "'"
  | duplicateDefault => "Duplicated default export"
  | emptyParentheses => "Empty parenthesized expression"
  | trailingComma place => place ++ " may not have a trailing comma."
  | optionalTemplate => "Tagged template expressions are not permitted in an optional chain"
  | optionalConstruct => "Optional chaining cannot appear in the callee of new expressions"
  | constructImport => "Cannot use new with dynamic import"
  | importMeta => "The only valid meta property for import is import.meta"
  | newTarget => "The only valid meta property for new is new.target"
  | importArguments => "import() requires a specifier."
  | nameAfterOptional => "Identifier expected after '?.'"
  | superValue => "'super' can only be used with function calls or in property accesses"
  | functionName => "Expected function name"
  | functionBody => "Expected function body"
  | catchOrFinally => "Missing catch or finally clause"
  | getterParameters => "A 'get' accessor must not have any formal parameters."
  | setterParameters => "A 'set' accessor must have exactly one formal parameter."
  | lastRest => "A rest parameter must be last in a parameter list"
  | lastRestOfPattern => "A rest element must be last in a destructuring pattern"
  | lastSpread => "Spread must be last element"
  | trailingRestComma => "Unexpected trailing comma after rest element"
  | restElement => "Invalid rest element"
  | optionalRest => "A rest parameter cannot be optional"
  | initializedRest => "A rest parameter cannot have an initializer"
  | invalidTarget => "Cannot assign to this expression"
  | coverInitializer => "Invalid assignment in object literal"
  | exponentiation => "Unexpected exponentiation expression"
  | forOfAsync =>
      "The left-hand side of a " ++ quoted "for...of" ++ " statement may not be " ++ quoted "async"
  | forAwait => "await can only be used in conjunction with " ++ quoted "for...of" ++ " statements"
  | mixedCoalesce => "Logical expressions and coalesce expressions cannot be mixed"
  | staticPrototype => "Classes may not have a static property named 'prototype'"
  | fieldConstructor => "Classes can't have a field named 'constructor'"
  | privateConstructor => "Classes can't have an element named '#constructor'"
  | accessorConstructor => "Constructor can't have get/set modifier"
  | asyncConstructor => "Constructor can't be an async method"
  | generatorConstructor => "Constructor can't be a generator"
  | modifierHere w => "'" ++ w ++ "' modifier cannot be used here."
  | modifierSeen w => "'" ++ w ++ "' modifier already seen."
  | accessibilitySeen => "Accessibility modifier already seen."
  | modifierOrder w b => "'" ++ w ++ "' modifier must precede '" ++ b ++ "' modifier."
  | privateAccessibility =>
      "An accessibility modifier cannot be used with a private identifier."
  | enumNumeric => "An enum member cannot have a numeric name."
  | enumComputed => "Computed property names are not allowed in enums."
  | typedOnly c => c.message
  | typeTwiceImport =>
      "The 'type' modifier cannot be used on a named import when 'import type' is used on its "
        ++ "import statement."
  | typeTwiceExport =>
      "The 'type' modifier cannot be used on a named export when 'export type' is used on its "
        ++ "export statement."
  | jsxHere => "Unexpected JSX expression"
  | jsxText c =>
      "Unexpected token. Did you mean " ++ quoted ("\x7b'" ++ String.singleton c ++ "'\x7d")
        ++ " or " ++ quoted (jsxReplacement c) ++ "?"
  | jsxHyphen => "Identifiers in JSX cannot contain hyphens"
  | jsxClosing n => "Expected corresponding JSX closing tag for '" ++ n ++ "'."
  | jsxEmptyAttribute => "JSX attributes must only be assigned a non-empty 'expression'."
  | jsxSequence => "JSX expressions may not use the comma operator"
  | thisParameter => "An arrow function cannot have a 'this' parameter."
  | emptyTypeParameters => "Type parameter list cannot be empty."
  | emptyTypeArguments => "Type argument list cannot be empty."
  | implementsTwice => "'implements' clause already seen."
  | extendsTwice => "'extends' clause already seen."
  | extendsMany => "Classes can only extend a single class."

end Fault

structure Diagnostic where
  fault : Fault
  offset : Nat
deriving DecidableEq, Repr, Inhabited

def Diagnostic.message (d : Diagnostic) : String :=
  d.fault.message

end RouteWrap
