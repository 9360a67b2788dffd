import AccountLink.Service.Call
import AccountLink.Settings

-- Command lines: options of the program, a command, and the options and places of the command. They are read
-- from left to right, and the first word that asks for help or does not fit ends the reading.

namespace AccountLink.Program

open AccountLink.Wire

inductive Stop where
  | help
  | misuse
deriving DecidableEq, Repr

inductive Word where
  | plain
  | separator
  | long (name : String) (value : Option String)
  | short (letters : List Char)
deriving DecidableEq, Repr

def Word.of (text : List Char) : Word :=
  match text with
  | ['-','-'] => .separator
  | '-' :: '-' :: rest =>
    let name := String.ofList (rest.takeWhile (· ≠ '='))
    match rest.dropWhile (· ≠ '=') with
    | [] => .long name none
    | _ :: value => .long name (some (String.ofList value))
  | '-' :: letter :: letters => .short (letter :: letters)
  | _ => .plain

abbrev Given := List (String × String)

def give (names : List String) (given : Given) (name value : String) : Except Stop Given :=
  if names.contains name && (given.lookup name).isNone then .ok (given ++ [(name,value)])
  else .error .misuse

def readOptions (names : List String) : Given → List String → Except Stop (Given × List String)
  | given,[] => .ok (given,[])
  | given,word :: words =>
    match Word.of word.toList with
    | .plain => .ok (given,word :: words)
    | .separator => .ok (given,word :: words)
    | .short letters => .error (if letters.head? = some 'h' then .help else .misuse)
    | .long name (some value) =>
      match give names given name value with
      | .ok given => readOptions names given words
      | .error stop => .error stop
    | .long name none =>
      if name = "help" then .error .help
      else match words with
        | [] => .error .misuse
        | value :: words =>
          if Word.of value.toList = .plain then
            match give names given name value with
            | .ok given => readOptions names given words
            | .error stop => .error stop
          else .error .misuse

def noMore : List String → Except Stop Unit
  | [] => .ok ()
  | ["--"] => .ok ()
  | _ => .error .misuse

def readAll (names : List String) (words : List String) : Except Stop Given := do
  let (given,rest) ← readOptions names [] words
  noMore rest
  .ok given

def readPlace (words : List String) : Except Stop String := do
  match ← readOptions [] [] words with
  | (_,[]) => .error .misuse
  | (_,"--" :: place :: rest) => if rest.isEmpty then .ok place else .error .misuse
  | (_,place :: rest) =>
    if place = "--" then .error .misuse
    else
      discard (readAll [] rest)
      .ok place

def needed (given : Given) (name : String) : Except Stop String :=
  match given.lookup name with
  | some value => .ok value
  | none => .error .misuse

def userOptions : List String := ["user-id","name","user-email","role","profile-image-url"]

def defaultRole : String := "user"
def defaultImage : String := "/user.png"

def readUser (words : List String) : Except Stop NewUser := do
  let given ← readAll userOptions words
  let userId ← needed given "user-id"
  let name ← needed given "name"
  let email ← needed given "user-email"
  .ok ⟨userId,name,email,(given.lookup "role").getD defaultRole,
    (given.lookup "profile-image-url").getD defaultImage⟩

def readCall (command : String) (words : List String) : Except Stop Call :=
  match command with
  | "login" => do discard (readAll [] words); .ok .login
  | "logout" => do discard (readAll [] words); .ok .logout
  | "admin-login" => do discard (readAll [] words); .ok .adminLogin
  | "create-user" => do .ok (.createUser (← readUser words))
  | "ls" => do .ok (.listFiles (← readPlace words))
  | "cat" => do .ok (.fetchFile (← readPlace words))
  | _ => .error .misuse

def commands : List String := ["login","logout","admin-login","create-user","ls","cat","help"]

def readHelp : List String → Stop
  | [] => .help
  | [command] => if commands.contains command then .help else .misuse
  | _ => .misuse

structure CommandLine where
  baseUrl : Option String
  caller : Caller
  call : Call
deriving DecidableEq, Repr

def tokenVariable : String := "CONFIDIOS_TOKEN"
def emailVariable : String := "CONFIDIOS_EMAIL"

def optionOrVariable (given : Given) (name : String) (v : Variable) : Except Stop (Option String) :=
  match given.lookup name,v with
  | some value,_ => .ok (some value)
  | none,.text s => .ok (some s)
  | none,.unset => .ok none
  | none,.bytes => .error .misuse

-- A token has to be known; the email address is empty if it is not.
def CommandLine.read (env : Environment) (words : List String) : Except Stop CommandLine := do
  match ← readOptions ["base-url","token","email"] [] words with
  | (_,[]) => .error .misuse
  | (_,"help" :: rest) => .error (readHelp rest)
  | (given,command :: rest) =>
    let call ← readCall command rest
    let some token ← optionOrVariable given "token" (env tokenVariable) | .error .misuse
    let email ← optionOrVariable given "email" (env emailVariable)
    .ok ⟨given.lookup "base-url",⟨token,email.getD ""⟩,call⟩

end AccountLink.Program
