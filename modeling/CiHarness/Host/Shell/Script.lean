/-!
# Scripts

What a script says, before anything of it is replaced or run. A word is a list of parts: text as it
stands, and values, outputs and sums to be replaced, each of them quoted or not. A quoted part is
never split and makes a word even if it is empty. A script is a command or is made of others. The
extended shell knows more forms than the plain one; here both are together.
-/
namespace CiHarness.Shell

/-- In what way a value is replaced in, where a pattern is looked for. -/
inductive Anchor where
  | first
  | everywhere
  | front
  | back
  deriving DecidableEq

/-- What a redirection does. -/
inductive Direction where
  | read
  | write
  | append
  /-- Written even where files are protected. -/
  | overwrite
  | readWrite
  /-- Both descriptors are made one; a hyphen closes. -/
  | duplicate
  /-- The text itself is read. -/
  | here
  /-- Output and complaints are written to one file. -/
  | writeAll
  | appendAll
  deriving DecidableEq

/-- How a case goes on after its commands. -/
inductive CaseEnd where
  | stop
  | intoNext
  | tryNext
  deriving DecidableEq

mutual

/-- A part of a word. -/
inductive Part where
  | text (s : String) (quoted : Bool)
  /-- The value of a variable, changed in some way; elements of a list have an index. -/
  | value (name : String) (index : Option (List Part)) (change : Change) (quoted : Bool)
  /-- The output of a script. -/
  | output (body : Script) (quoted : Bool)
  /-- The value of an arithmetic expression. -/
  | sum (expression : List Part) (quoted : Bool)
  /-- A file that holds the output of a script, or hands it its input. -/
  | channel (body : Script) (isInput : Bool)

/-- How a value is changed before it is used. The first four look at whether it is set, and if they
say so, whether it is empty. -/
inductive Change where
  | none
  | fallback (orEmpty : Bool) (word : List Part)
  | assign (orEmpty : Bool) (word : List Part)
  | demand (orEmpty : Bool) (word : List Part)
  | alternative (orEmpty : Bool) (word : List Part)
  | length
  | trim (atEnd longest : Bool) (pattern : List Part)
  | slice (offset : List Part) (count : Option (List Part))
  | replace (anchor : Anchor) (pattern replacement : List Part)
  | recase (toUpper all : Bool) (pattern : List Part)
  /-- The value names another variable, whose value is changed. -/
  | indirect (change : Change)
  | keys
  | names
  | transform (letter : Char)
  /-- No form that is known. -/
  | unknown

/-- A variable is set, or something is added to it. -/
inductive Assignment where
  | single (name : String) (index : Option (List Part)) (adds : Bool) (value : List Part)
  | several (name : String) (adds : Bool) (values : List (Option (List Part) × List Part))

/-- A redirection of a descriptor. -/
inductive Redirect where
  | mk (descriptor : Nat) (direction : Direction) (target : List Part)
  /-- A descriptor that is not in use, whose number is kept in a variable; if it is closed, the one
  whose number the variable holds. -/
  | named (holder : String) (direction : Direction) (target : List Part)

/-- A condition between double brackets. -/
inductive Condition where
  | unary (operator : String) (word : List Part)
  | binary (operator : String) (left right : List Part)
  | negated (c : Condition)
  | both (first second : Condition)
  | either (first second : Condition)

/-- A script. -/
inductive Script where
  | nothing
  | simple (line : Nat) (assignments : List Assignment) (words : List (List Part))
      (redirects : List Redirect)
  | pipeline (stages : List Script)
  | negated (body : Script)
  | both (first second : Script)
  | either (first second : Script)
  | sequence (first second : Script)
  | background (body : Script)
  | subshell (body : Script)
  | choice (condition yes no : Script)
  /-- The body is run as long as the condition ends well, or as long as it does not. -/
  | loop (isUntil : Bool) (condition body : Script)
  /-- The body is run for every text that some words, or the parameters, stand for. -/
  | each (name : String) (words : Option (List (List Part))) (body : Script)
  /-- The body is run for every choice that is read among some texts. -/
  | menu (name : String) (words : Option (List (List Part))) (body : Script)
  /-- The body is run as long as an expression is not zero. -/
  | counting (start condition step : List Part) (body : Script)
  /-- The first case that matches a word is run. -/
  | matching (word : List Part) (cases : List (List (List Part) × Script × CaseEnd))
  | redirected (body : Script) (redirects : List Redirect)
  | define (name : String) (body : Script)
  | judged (c : Condition)
  | reckoned (expression : List Part)

end

/-- A word before its parts are replaced. -/
abbrev Word := List Part

/-- A word that is one unquoted text. -/
def bareText? : Word → Option String
  | [.text s false] => some s
  | _ => none

end CiHarness.Shell
