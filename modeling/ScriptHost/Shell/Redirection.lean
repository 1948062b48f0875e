import ScriptHost.Shell.Expansion

/-!
# Redirections

Redirections are made from left to right. The words of all of them are expanded first, and
after a command the streams are what they were before it.

## Main definitions

* `ready` — redirections whose words are expanded.
* `redirect` — makes redirections.
* `redirected` — an act with redirections that last as long as it does.
-/

namespace ScriptHost.Shell

/-- A redirection whose words are expanded. -/
inductive ReadyRedirect where
  | file (stream : Nat) (use : FileUse) (path : Octets)
  /-- Another name for a stream. -/
  | duplicate (stream source : Nat)
  | close (stream : Nat)
  | document (stream number : Nat)

/-- The stream that a redirection is about. -/
def ReadyRedirect.stream : ReadyRedirect → Nat
  | .file stream .. | .duplicate stream _ | .close stream | .document stream _ => stream

/-- A redirection whose word is expanded. -/
def readyOne (outputOf : OutputOf) : Redirect → Act ReadyRedirect
  | .file stream use path => do return .file stream use (← textOf outputOf path)
  | .document stream number => return .document stream number
  | .duplicate stream source => do
    match ← fieldsOf outputOf source with
    | [] => fail "redir error"
    | field :: _ =>
      match field.toList with
      | ['-'] => return .close stream
      | [d] => if d.isDigit then return .duplicate stream (d.toNat - '0'.toNat) else refuse
      | _ => refuse
where
  refuse : Act ReadyRedirect := do
    modify fun s => { s with line := s.reached }
    fail (SyntaxError.message ⟨0, .streamNumber⟩)

/-- Redirections whose words are expanded. -/
def ready (outputOf : OutputOf) (redirects : List Redirect) : Act (List ReadyRedirect) :=
  redirects.mapM (readyOne outputOf)

/-- A channel for a file. -/
def openFile (r : Running) (use : FileUse) (protects : Bool) (path : Octets) :
    Except OsError (Nat × Running) :=
  match use with
  | .read => r.openToRead path
  | .append => r.openToWrite path .appending false
  | .readWrite => r.openToWrite path .both false
  | .overwrite => r.openToWrite path .writing true
  | .write =>
    match protects, r.entry? path with
    | true, some (.file ..) | true, some (.utility _) => .error .alreadyThere
    | _, _ => r.openToWrite path .writing true

/-- Leads a stream to a channel. -/
def leadStream (stream : Nat) (channel : Option Nat) : Act Unit :=
  modify fun s => { s with toRunning := s.toRunning.setStream stream channel }

/-- Makes a redirection. -/
def redirectOne (outputOf : OutputOf) : ReadyRedirect → Act Unit
  | .file stream use path => do
    let s ← get
    match openFile s.toRunning use (s.has "noclobber") path with
    | .ok (channel, r) =>
      set { s with toRunning := r }
      leadStream stream (some channel)
    | .error e => fail (openRefusal path (use ≠ .read) e)
  | .duplicate stream source => do
    if stream ≠ source then
      match (← get).toRunning.channel? source with
      | some channel => leadStream stream (some channel)
      | none => fail (toString source ++ ": " ++ OsError.text 9)
  | .close stream => leadStream stream none
  | .document stream number => do
    let word := ((← get).documents.lookup number).getD []
    let text ← documentOf outputOf word
    let s ← get
    let (reader, _, kernel) := s.kernel.addBuffer (Octets.toBytes text)
    set { s with kernel := kernel }
    leadStream stream (some reader)

/-- Makes redirections. -/
def redirect (outputOf : OutputOf) (redirects : List ReadyRedirect) : Act Unit :=
  redirects.forM (redirectOne outputOf)

/-- The session with the streams of redirections as they were before. -/
def Session.withStreamsOf (old : Session) (redirects : List ReadyRedirect) (s : Session) :
    Session :=
  { s with
    toRunning := redirects.foldl
      (fun r redirect => r.setStream redirect.stream (old.toRunning.channel? redirect.stream))
      s.toRunning }

/-- An act with redirections that last as long as it does. If they cannot be made, the act for
that case follows. -/
def redirected (outputOf : OutputOf) (redirects : List ReadyRedirect) (act refused : Act Nat) :
    Act Nat := do
  if redirects.isEmpty then act
  else
    let old ← get
    let restore := old.withStreamsOf redirects
    let status ← caught do
      redirect outputOf redirects
      return 0
    if status = 0 then ensuring act restore
    else do
      modify restore
      refused

end ScriptHost.Shell
