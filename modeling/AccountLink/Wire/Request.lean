import AccountLink.Json.Shape

namespace AccountLink.Wire

open AccountLink.Json

structure LoginRequest where
  username : String
deriving DecidableEq, Repr

def LoginRequest.toValue (r : LoginRequest) : Value :=
  .object [("confidios_username",.string r.username)]

structure PathRequest where
  path : String
deriving DecidableEq, Repr

def PathRequest.toValue (r : PathRequest) : Value := .object [("path",.string r.path)]

structure NewUser where
  userId : String
  name : String
  email : String
  role : String
  profileImageUrl : String
deriving DecidableEq, Repr

namespace NewUser

def toValue (u : NewUser) : Value :=
  .object [("user_id",.string u.userId),("name",.string u.name),("email",.string u.email),
    ("role",.string u.role),("profile_image_url",.string u.profileImageUrl)]

def shape : Shape NewUser where
  name := "UserCreateRequest"
  fields := [
    .needed "user_id" .text fun s u => {u with userId := s},
    .needed "name" .text fun s u => {u with name := s},
    .needed "email" .text fun s u => {u with email := s},
    .needed "role" .text fun s u => {u with role := s},
    .needed "profile_image_url" .text fun s u => {u with profileImageUrl := s}]
  blank := ⟨"","","","",""⟩

end NewUser

end AccountLink.Wire
