import TurningGood.Channels.Registry

/-!
# The events and the texts of personal WeChat

`_parse_event` reads an event that the platform sends, and
`split_utf8_chunks` cuts a text into the pieces that the platform takes.
-/

namespace TurningGood.Channels

open TurningGood.Foundation
open TurningGood.Foundation.Text

/-! ## Events -/

/-- A value of an event; of the other values only the truth is kept. -/
inductive EventField where
  | text (value : String)
  | whole (value : Int)
  | truth (value : Bool)
  | other (truthy : Bool)
deriving DecidableEq

namespace EventField

/-- The text of a text. -/
def text? : EventField → Option String
  | .text value => some value
  | _ => none

/-- `bool(value)`. -/
def truthy : EventField → Bool
  | .text value => value ≠ ""
  | .whole value => value ≠ 0
  | .truth value => value
  | .other truthy => truthy

/-- `str(value)` of a text or an integer; a boolean is an integer. -/
def word? : EventField → Option String
  | .text value => some value
  | .whole value => some (toString value)
  | .truth value => some (if value then "True" else "False")
  | .other _ => none

/-- `str(value).lower()` names the text type. -/
def isTextType (field : EventField) : Bool :=
  (field.word?.map lower).any (["text", "1", "txt"].contains ·)

end EventField

/-- One item of `item_list`, or of `items`. -/
structure WeixinItem where
  type : Option EventField
  itemType : Option EventField
  text : Option EventField
  content : Option EventField
  /-- `text` of `text_item` -/
  nestedText : Option EventField
deriving DecidableEq

/-- The fields of an event that `_parse_event` and `_handle_event` read. -/
structure WeixinEvent where
  messageId : Option EventField
  msgId : Option EventField
  seq : Option EventField
  fromUserId : Option EventField
  /-- `fromUserId`, the other spelling of the field -/
  fromUserIdCamel : Option EventField
  messageType : Option EventField
  msgType : Option EventField
  /-- the items that are objects -/
  items : List WeixinItem
  chatType : Option EventField
  conversationType : Option EventField
  contextToken : Option EventField
deriving DecidableEq

namespace WeixinEvent

/-- `event.get("from_user_id", event.get("fromUserId"))`, if it is a text. -/
def sender? (event : WeixinEvent) : Option String :=
  ((event.fromUserId <|> event.fromUserIdCamel).bind EventField.text?).filter (· ≠ "")

/-- The context token of the event. -/
def contextToken? (event : WeixinEvent) : Option String :=
  (event.contextToken.bind EventField.text?).filter (· ≠ "")

end WeixinEvent

/-- The text type and the content as the items change them. -/
structure ItemText where
  isText : Bool
  content : String
  hasNonText : Bool
deriving DecidableEq

/-- One pass of the loop of `_parse_event` over the items. -/
def readItem (messageType : EventField) (found : ItemText) (item : WeixinItem) : ItemText :=
  let itemType :=
    ((item.type <|> item.itemType).getD messageType)
  if itemType.isTextType then
    let nested :=
      (item.nestedText.filter EventField.truthy).getD (.text "")
    match ((item.text <|> item.content).getD nested).text? with
    | some value =>
      { found with
        isText := true
        content := found.content ++ value }
    | none => found
  else if itemType.word? ≠ some "" then
    { found with hasNonText := true }
  else
    found

/-- The result of `_parse_event`, without the metadata for the turn. -/
structure ParsedWeixinEvent where
  messageKey : String
  sender : String
  isText : Bool
  content : String
deriving DecidableEq

/-- `_parse_event`. -/
def parseWeixinEvent (event : WeixinEvent) : Option ParsedWeixinEvent :=
  match ((event.messageId <|> event.msgId <|> event.seq).bind
      EventField.word?).filter (· ≠ ""), event.sender?,
      event.messageType <|> event.msgType with
  | some messageKey, some sender, some messageType =>
    match messageType.word?.filter (· ≠ "") with
    | none => none
    | some _ =>
      let found :=
        event.items.foldl (readItem messageType)
          { isText := messageType.isTextType
            content := ""
            hasNonText := false }
      some
        { messageKey := messageKey
          sender := sender
          isText := found.isText && !found.hasNonText
          content := found.content }
  | _, _, _ => none

/-- `_is_private_chat`. -/
def isPrivateChat (event : WeixinEvent) : Bool :=
  match ((event.chatType <|> event.conversationType).bind
      EventField.word?).filter (· ≠ "") with
  | none => event.sender?.any fun sender =>
    !"@chatroom".toList.isSuffixOf sender.toList
  | some chatType =>
    ["p2p", "private", "direct", "single", "1"].contains (lower chatType)

/-- The loop of `split_utf8_chunks`; a character that is too long raises. -/
def splitChunks (maxBytes : Nat) : List Char → List Char → Nat → Option (List String)
  | [], [], _ => some []
  | [], current, _ => some [String.ofList current]
  | character :: rest, current, currentBytes =>
    if maxBytes < character.utf8Size then
      none
    else if current ≠ [] ∧
        maxBytes < currentBytes + character.utf8Size then
      (splitChunks maxBytes rest [character] character.utf8Size).map (String.ofList current :: ·)
    else
      splitChunks maxBytes rest (current ++ [character]) (currentBytes + character.utf8Size)

/-- `split_utf8_chunks`. -/
def splitUtf8Chunks (text : String) (maxBytes : Nat) :
    Option (List String) :=
  if maxBytes = 0 then none else splitChunks maxBytes text.toList [] 0

end TurningGood.Channels
