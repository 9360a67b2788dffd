import AccountLink.Json.Shape

-- What the backend answers. Every member may be left out; amounts may be strings or numbers.

namespace AccountLink.Wire

open AccountLink.Json

structure LoginReply where
  status : Option String
  user : Option String
  balance : Option String
deriving DecidableEq, Repr

def LoginReply.shape : Shape LoginReply where
  name := "UserLoginResponse"
  fields := [
    .of "status" .optionalText fun s r => {r with status := s},
    .of "confidios_user" .optionalText fun s r => {r with user := s},
    .of "confidios_balance" .amount fun s r => {r with balance := s}]
  blank := ⟨none,none,none⟩

structure StatusReply where
  status : Option String
deriving DecidableEq, Repr

def StatusReply.shape : Shape StatusReply where
  name := "StatusResponse"
  fields := [.of "status" .optionalText fun s r => {r with status := s}]
  blank := ⟨none⟩

structure AdminReply where
  status : Option String
  userId : Option String
  role : Option String
deriving DecidableEq, Repr

def AdminReply.shape : Shape AdminReply where
  name := "AdminLoginResponse"
  fields := [
    .of "status" .optionalText fun s r => {r with status := s},
    .of "user_id" .optionalText fun s r => {r with userId := s},
    .of "role" .optionalText fun s r => {r with role := s}]
  blank := ⟨none,none,none⟩

structure CreateReply where
  status : Option String
  user : Option Value
deriving Repr

def CreateReply.shape : Shape CreateReply where
  name := "UserCreateResponse"
  fields := [
    .of "status" .optionalText fun s r => {r with status := s},
    .of "user" .anything fun v r => {r with user := v}]
  blank := ⟨none,none⟩

structure ListReply where
  status : Option String
  files : List Value
deriving Repr

def ListReply.shape : Shape ListReply where
  name := "ListFilesResponse"
  fields := [
    .of "status" .optionalText fun s r => {r with status := s},
    .of "files" .list fun vs r => {r with files := vs}]
  blank := ⟨none,[]⟩

structure FileContent where
  balance : Option String
  data : Option Value
deriving Repr

namespace FileContent

def none : FileContent := ⟨.none,.none⟩

def shape : Shape FileContent where
  name := "FileContent"
  fields := [
    .of "balance" .amount fun s c => {c with balance := s},
    .of "data" .anything fun v c => {c with data := v}]
  blank := none

def toValue (c : FileContent) : Value :=
  .object [("balance",.ofOption .string c.balance),("data",.ofOption id c.data)]

end FileContent

structure ReadReply where
  status : Option String
  content : Option FileContent
deriving Repr

def ReadReply.shape : Shape ReadReply where
  name := "ReadFileResponse"
  fields := [
    .of "status" .optionalText fun s r => {r with status := s},
    .of "content" FileContent.shape.form fun c r => {r with content := c}]
  blank := ⟨none,none⟩

end AccountLink.Wire
