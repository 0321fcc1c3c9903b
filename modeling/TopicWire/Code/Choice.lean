import TopicWire.Code.Basic

/-!
# Coded choices inside a datagram

Four small sets of codes that occur as one-byte fields: why a session ends, what a request asks of
an object or of a topic, and how a topic request ended. Each reserves 0xAA for `unknown`.
-/

set_option autoImplicit false
set_option relaxedAutoImplicit false

namespace TopicWire

/-- Why a session ends. -/
inductive EndReason where
  | shutdown
  | timeOut
  | unknown
  deriving DecidableEq, Repr

namespace EndReason

/-- The byte of a reason. -/
def code : EndReason → UInt8
  | shutdown => 0x00
  | timeOut => 0x01
  | unknown => 0xAA

/-- The name of a reason. -/
def label : EndReason → String
  | shutdown => "Shutdown"
  | timeOut => "TimeOut"
  | unknown => "Unknown"

instance : Coded EndReason := ⟨[shutdown, timeOut, unknown], unknown, code, label, label⟩

/-- The reason a byte names. -/
def ofCode (byte : UInt8) : EndReason := Coded.ofCode byte

@[simp] theorem ofCode_code (reason : EndReason) : ofCode reason.code = reason := by
  cases reason <;> rfl

end EndReason

/-- What a request asks of an object. -/
inductive ObjectAction where
  | create
  | update
  | delete
  | subscribe
  | unsubscribe
  | unknown
  deriving DecidableEq, Repr

namespace ObjectAction

/-- The byte of an action on an object. -/
def code : ObjectAction → UInt8
  | create => 0x01
  | update => 0x02
  | delete => 0x04
  | subscribe => 0x08
  | unsubscribe => 0x10
  | unknown => 0xAA

/-- The name of an action on an object. -/
def label : ObjectAction → String
  | create => "Create"
  | update => "Update"
  | delete => "Delete"
  | subscribe => "Subscribe"
  | unsubscribe => "Unsubscribe"
  | unknown => "Unknown"

instance : Coded ObjectAction :=
  ⟨[create, update, delete, subscribe, unsubscribe, unknown], unknown, code, label, label⟩

/-- The action on an object that a byte names. -/
def ofCode (byte : UInt8) : ObjectAction := Coded.ofCode byte

@[simp] theorem ofCode_code (action : ObjectAction) : ofCode action.code = action := by
  cases action <;> rfl

end ObjectAction

/-- What a request asks of a topic. -/
inductive TopicAction where
  | subscribe
  | unsubscribe
  | unknown
  deriving DecidableEq, Repr

namespace TopicAction

/-- The byte of an action on a topic. -/
def code : TopicAction → UInt8
  | subscribe => 0x00
  | unsubscribe => 0xFF
  | unknown => 0xAA

/-- The name of an action on a topic. -/
def label : TopicAction → String
  | subscribe => "Subscribe"
  | unsubscribe => "Unsubscribe"
  | unknown => "Unknown"

instance : Coded TopicAction := ⟨[subscribe, unsubscribe, unknown], unknown, code, label, label⟩

/-- The action on a topic that a byte names. -/
def ofCode (byte : UInt8) : TopicAction := Coded.ofCode byte

@[simp] theorem ofCode_code (action : TopicAction) : ofCode action.code = action := by
  cases action <;> rfl

end TopicAction

/-- How a topic request ended. -/
inductive TopicResponse where
  | subSuccess
  | subFailure
  | unsubSuccess
  | unsubFailure
  | unknown
  deriving DecidableEq, Repr

namespace TopicResponse

/-- The byte of a response. -/
def code : TopicResponse → UInt8
  | subSuccess => 0x00
  | subFailure => 0x0F
  | unsubSuccess => 0xF0
  | unsubFailure => 0xFF
  | unknown => 0xAA

/-- The name of a response. -/
def label : TopicResponse → String
  | subSuccess => "SubSuccess"
  | subFailure => "SubFailure"
  | unsubSuccess => "UnsubSuccess"
  | unsubFailure => "UnsubFailure"
  | unknown => "Unknown"

instance : Coded TopicResponse :=
  ⟨[subSuccess, subFailure, unsubSuccess, unsubFailure, unknown], unknown, code, label, label⟩

/-- The response a byte names. -/
def ofCode (byte : UInt8) : TopicResponse := Coded.ofCode byte

@[simp] theorem ofCode_code (response : TopicResponse) : ofCode response.code = response := by
  cases response <;> rfl

/-- Whether the request was granted. -/
def isSuccess : TopicResponse → Bool
  | subSuccess | unsubSuccess => true
  | _ => false

end TopicResponse

end TopicWire
