import AccountLink.Text.Quoted

namespace AccountLink

open AccountLink.Text

inductive LinkError where
  | configuration (message : String)
  | client (message : String)
  | request (message : String)
  | status (code : Nat) (body : String)
  | reply (message : String)
deriving DecidableEq, Repr

namespace LinkError

def message : LinkError → String
  | .configuration m => "config parse failed: " ++ m
  | .client m => "HTTP client build failed: " ++ m
  | .request m => "API request failed: " ++ m
  | .status code _ => "API response error: status " ++ toString code
  | .reply m => "API response parse failed: " ++ m

def code : LinkError → String
  | .configuration _ => "E_CONFIG_PARSE"
  | .client _ => "E_HTTP_CLIENT_BUILD"
  | .request _ => "E_API_REQUEST"
  | .status _ _ => "E_API_STATUS"
  | .reply _ => "E_API_PARSE"

def retryable : LinkError → Bool
  | .request _ => true
  | .status code _ => code = 429 || (500 ≤ code && code ≤ 599)
  | _ => false

def describe : LinkError → String
  | .configuration m => "ConfigParse(" ++ quote m ++ ")"
  | .client m => "HttpClientBuild(" ++ quote m ++ ")"
  | .request m => "Request(" ++ quote m ++ ")"
  | .status code body => "Status \x7b status: " ++ toString code ++ ", body: " ++ quote body ++ " \x7d"
  | .reply m => "Parse(" ++ quote m ++ ")"

end LinkError

inductive Operation where
  | login
  | logout
  | adminLogin
  | createUser
  | listFiles
  | fetchFile
deriving DecidableEq, Repr

structure OperationError where
  operation : Operation
  cause : LinkError
deriving DecidableEq, Repr

namespace OperationError

def what : Operation → String
  | .login => "confidios login failed"
  | .logout => "confidios logout failed"
  | .adminLogin => "confidios admin login failed"
  | .createUser => "confidios user creation failed"
  | .listFiles => "confidios file listing failed"
  | .fetchFile => "confidios file read failed"

def message (e : OperationError) : String := what e.operation ++ ": " ++ e.cause.message

def code (e : OperationError) : String :=
  match e.operation with
  | .login => "E_LOGIN_FAILED"
  | .logout => "E_LOGOUT_FAILED"
  | .adminLogin => "E_ADMIN_LOGIN_FAILED"
  | .createUser => "E_CREATE_USER_FAILED"
  | .listFiles => "E_LIST_FILES_FAILED"
  | .fetchFile => "E_READ_FILE_FAILED"

def retryable (e : OperationError) : Bool := e.cause.retryable

def describe (e : OperationError) : String :=
  let name := match e.operation with
    | .login => "LoginFailed"
    | .logout => "LogoutFailed"
    | .adminLogin => "AdminLoginFailed"
    | .createUser => "CreateUserFailed"
    | .listFiles => "ListFilesFailed"
    | .fetchFile => "ReadFileFailed"
  name ++ "(" ++ e.cause.describe ++ ")"

end OperationError

end AccountLink
