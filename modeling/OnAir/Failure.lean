/-!
# Failures

What can go wrong for a client. Each cause has a stable code, a wording and a status; causes that
must not be told apart share all three.
-/

namespace OnAir

inductive Failure
  | userNotFound
  | nameTaken
  | channelNotFound (name : String)
  | noThumbnail (name : String)
  | store
  | notConfigured
  | missingCode
  | stateMismatch
  | exchange
  | profile
  | notAuthorized
  | badKey
  deriving DecidableEq, Repr

namespace Failure

def code : Failure → String
  | .userNotFound => "E_USER_NOT_FOUND"
  | .nameTaken => "E_CONFLICT"
  | .channelNotFound _ | .noThumbnail _ => "E_NOT_FOUND"
  | .store => "E_STORE_FAILURE"
  | .notConfigured => "E_CONFIGURATION"
  | .missingCode => "E_MISSING_CODE"
  | .stateMismatch => "E_STATE_MISMATCH"
  | .exchange | .profile => "E_UPSTREAM_FAILURE"
  | .notAuthorized => "E_NOT_AUTHORIZED"
  | .badKey => "E_BAD_API_KEY"

def message : Failure → String
  | .userNotFound => "user not found or wrong key"
  | .nameTaken => "channel name already in use"
  | .channelNotFound name => "channel not found: " ++ name
  | .noThumbnail name => "no thumbnail for " ++ name
  | .store => "internal error"
  | .notConfigured => "oauth not configured"
  | .missingCode => "missing code"
  | .stateMismatch => "state mismatch"
  | .exchange => "oauth failure"
  | .profile => "error getting user info from identity provider"
  | .notAuthorized => "not authorized"
  | .badKey => "Invalid API key"

def caller : Failure → String
  | .userNotFound => "streamgate.domain.ingest.authenticator:user_not_found:27"
  | .nameTaken => "streamgate.domain.channel.channel_domain:create_channel:44"
  | .channelNotFound _ => "streamgate.domain.channel.channel_domain:set_announce:57"
  | .noThumbnail _ => "streamgate.domain.directory.directory:get_thumbnail:75"
  | .store => "streamgate.domain.channel.channel_domain:store_failure:13"
  | .notConfigured => "streamgate.domain.login.login_flow:_require_configured:59"
  | .missingCode => "streamgate.domain.login.login_flow:callback:92"
  | .stateMismatch => "streamgate.domain.login.login_flow:_state_mismatch:145"
  | .exchange => "streamgate.domain.login.login_flow:callback:117"
  | .profile => "streamgate.domain.login.login_flow:callback:128"
  | .notAuthorized => "streamgate.domain.login.login_flow:require_identity:184"
  | .badKey => "streamgate.shared.api.utils:verify_api_key:79"

def status : Failure → Nat
  | .userNotFound => 403
  | .nameTaken => 409
  | .channelNotFound _ | .noThumbnail _ => 404
  | .store => 500
  | .notConfigured | .missingCode | .stateMismatch | .exchange | .profile => 400
  | .notAuthorized | .badKey => 401

end Failure

/-- What ended a request in a way nobody foresaw: its kind and its wording. Both are for the log
only. -/
structure Unforeseen where
  name : String
  text : String
  deriving DecidableEq, Repr

end OnAir
