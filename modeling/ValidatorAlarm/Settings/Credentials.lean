import ValidatorAlarm.Settings.Reading

/-!
# Credentials

What the channels identify themselves with (`CredentialsConfig`).  A channel has one primary account
and any number of additional ones; mail is sent from one account.
-/
namespace ValidatorAlarm

/-- An account of a push service, or of a chat bot: a token and whom it writes to. -/
structure TokenAccount where
  token : String
  recipient : String
deriving DecidableEq, Repr

namespace TokenAccount

def unset : TokenAccount := ⟨"", ""⟩

def read? (recipient : String) (place : Setting) : Option TokenAccount := do
  match ← place.record? ["token", recipient] with
  | [token, recipient] =>
    return {
      token := ← Setting.field? Setting.string? "" token
      recipient := ← Setting.field? Setting.string? "" recipient }
  | _ => none

/-- Reads the primary account and then the additional ones of a section. -/
def readAll? (recipient : String) (place : Setting) : Option (List TokenAccount) := do
  match ← place.record? ["token", recipient, "additional"] with
  | [token, account, additional] =>
    let token ← Setting.field? Setting.string? "" token
    let account ← Setting.field? Setting.string? "" account
    return ⟨token, account⟩ :: (← Setting.field? (Setting.list? (read? recipient)) [] additional)
  | _ => none

end TokenAccount

def readSecret? (place : Setting) : Option String := do
  match ← place.record? ["secret"] with
  | [secret] => Setting.field? Setting.string? "" secret
  | _ => none

/-- Reads the primary secret and then the additional ones of a section. -/
def readSecrets? (place : Setting) : Option (List String) := do
  match ← place.record? ["secret", "additional"] with
  | [secret, additional] =>
    let secret ← Setting.field? Setting.string? "" secret
    return secret :: (← Setting.field? (Setting.list? readSecret?) [] additional)
  | _ => none

/-- The account that mail is sent from. -/
structure MailAccount where
  address : String
  password : String
deriving DecidableEq, Repr

namespace MailAccount

/-- An account without address and password. -/
def unset : MailAccount := ⟨"", ""⟩

def read? (place : Setting) : Option MailAccount := do
  match ← place.record? ["email", "password"] with
  | [address, password] =>
    return {
      address := ← Setting.field? Setting.string? "" address
      password := ← Setting.field? Setting.string? "" password }
  | _ => none

end MailAccount

/-- All accounts; in each list the primary one comes first. -/
structure Credentials where
  pushover : List TokenAccount
  telegram : List TokenAccount
  slack : List String
  mail : MailAccount
deriving DecidableEq, Repr

namespace Credentials

def read? (place : Setting) : Option Credentials := do
  match ← place.record? ["pushover", "telegram", "slack", "smtp"] with
  | [pushover, telegram, slack, mail] =>
    return {
      pushover := ← Setting.field? (TokenAccount.readAll? "user_key") [.unset] pushover
      telegram := ← Setting.field? (TokenAccount.readAll? "chat_id") [.unset] telegram
      slack := ← Setting.field? readSecrets? [""] slack
      mail := ← Setting.field? MailAccount.read? .unset mail }
  | _ => none

end Credentials

end ValidatorAlarm
