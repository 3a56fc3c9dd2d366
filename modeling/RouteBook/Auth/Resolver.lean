import RouteBook.Auth.Credential

/-!
# Resolvers

A resolver loads its file of variables into the environment of the process once, when it is made.
From then on it looks credentials up there, step by step. Where the file is, what its text binds and how
variables are set is the business of the library that loads it.
-/

namespace RouteBook.Credential

/-- How loading a file of variables ends. -/
inductive Loading where
  /-- All is loaded, or no file is there. -/
  | done
  /-- The system refuses, with these words. -/
  | refused (words : String)
  | fault (f : Fault)

/-- Loads a file of variables into an environment. -/
abbrev Loader := Entries AnyText → Entries AnyText × Loading

/-- The file that a resolver is made with. -/
inductive VariableFile where
  /-- Files are not to be read. -/
  | ignored
  | read (load : Loader)

/-- A resolver: the environment of its process, and what was logged. -/
structure Resolver where
  env : Entries AnyText
  logs : List LogLine := []

/-- What a resolver is asked for. -/
inductive Step where
  | resolve (r : Request)
  | resolveAuth (group : String)

/-- What it gives. -/
inductive Answer where
  | resolved (result : Except CredentialError Value)
  | authenticated (result : Except CredentialError Auth)

namespace Resolver

/-- The log line when a file of variables was read. -/
def loadedLine : LogLine :=
  .debug "Loaded .env file for credential resolution"

/-- The log line when the system refused to read a file of variables. -/
def refusedLine (words : String) : LogLine :=
  .warning s!"Failed to load .env file: {words}"

/-- Makes a resolver, and leaves an environment. What the system refuses is only logged, but a fault
leaves no resolver. -/
def start (env : Entries AnyText) (file : VariableFile) :
    Entries AnyText × Except Fault Resolver :=
  match file with
  | .ignored => (env, .ok ⟨env, []⟩)
  | .read load =>
    let (env, loading) := load env
    match loading with
    | .done => (env, .ok ⟨env, [loadedLine]⟩)
    | .refused words => (env, .ok ⟨env, [refusedLine words]⟩)
    | .fault f => (env, .error f)

/-- The resolver after a step, and what the step gives. -/
def step (c : Resolver) : Step → Resolver × Answer
  | .resolve r =>
    let (lines, result) := resolve c.env r
    (⟨c.env, c.logs ++ lines⟩, .resolved result)
  | .resolveAuth group =>
    let (lines, result) := resolveAuth c.env group
    (⟨c.env, c.logs ++ lines⟩, .authenticated result)

/-- The resolver after some steps, and what each of them gives. -/
def run (c : Resolver) : List Step → Resolver × List Answer
  | [] => (c, [])
  | s :: steps =>
    let (c, answer) := c.step s
    let (c, answers) := c.run steps
    (c, answer :: answers)

end Resolver

end RouteBook.Credential
