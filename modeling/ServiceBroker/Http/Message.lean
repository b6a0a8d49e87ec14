/-
# Messages on a connection

A request is framed by its own bytes: the head ends at the first empty line, and the
body is as long as the head says, in one piece or in chunks.  `Arrival.ofBytes` tells
what the bytes received so far amount to.  A response says how long it is, and that the
connection ends with it.
-/

import ServiceBroker.Http.Response
import ServiceBroker.Json.Text
import ServiceBroker.Text.Hex

namespace ServiceBroker
namespace Http

/-- What the bytes that have arrived on a connection amount to. -/
inductive Arrival where
  | incomplete
  | malformed
  | complete (request : Request)

namespace Arrival

/-- The two bytes that end a line. -/
def lineEnd : Bytes := [0x0d, 0x0a]

/-- The number of bytes before the first occurrence of a mark. -/
def find? (mark : Bytes) (passed : Nat) : Bytes → Option Nat
  | [] => none
  | b :: rest =>
    if mark.isPrefixOf (b :: rest) then some passed else find? mark (passed + 1) rest

/-- The bytes before and the bytes behind the first occurrence of a mark. -/
def cut? (mark bytes : Bytes) : Option (Bytes × Bytes) :=
  (find? mark 0 bytes).map fun n => (bytes.take n, bytes.drop (n + mark.length))

/-- The lines of a head. -/
def lines (head : Bytes) : List Bytes :=
  (Bytes.split 0x0a head).map fun line => if line.getLast? = some 0x0d then line.dropLast else line

/-- A blank beside the value of a header. -/
def isPadding (b : UInt8) : Bool := b = 0x20 || b = 0x09

/-- A value without the blanks around it. -/
def trim (value : Bytes) : Bytes :=
  ((value.dropWhile isPadding).reverse.dropWhile isPadding).reverse

/-- The header that a line spells. -/
def header? (line : Bytes) : Option (String × Bytes) :=
  match line.dropWhile (· ≠ 0x3a) with
  | _ :: value => some (Bytes.latin (line.takeWhile (· ≠ 0x3a)), trim value)
  | [] => none

/-- The method and the URI of the first line. -/
def start? (line : Bytes) : Option (String × Bytes) := do
  let [method, uri, version] := Bytes.split 0x20 line | none
  if version = Bytes.ofText "HTTP/1.1" ∨ version = Bytes.ofText "HTTP/1.0" then
    return (Bytes.latin method, uri)
  else none

/-- The number that digits of a base spell, given by their ASCII bytes. -/
def number? (base : Nat) (digits : Bytes) : Option Nat :=
  if digits = [] then none
  else digits.foldlM (fun n b => do
    let v ← Hex.value? b
    if v < base then return n * base + v else none) 0

/-- A body in chunks put together, or nothing; the number bounds the chunks. -/
def chunks : Nat → Bytes → Arrival ⊕ Bytes
  | 0, _ => .inl .incomplete
  | n + 1, bytes =>
    match cut? lineEnd bytes with
    | none => .inl .incomplete
    | some (line, rest) =>
      match number? 16 (trim (line.takeWhile (· ≠ 0x3b))) with
      | none => .inl .malformed
      | some 0 => if (cut? lineEnd rest).isSome then .inr [] else .inl .incomplete
      | some size =>
        if rest.length < size + 2 then .inl .incomplete
        else match chunks n (rest.drop (size + 2)) with
          | .inl other => .inl other
          | .inr more => .inr (rest.take size ++ more)

/-- The body that a head announces, taken from the bytes behind it. -/
def body (headers : Headers) (bytes : Bytes) : Arrival ⊕ Bytes :=
  match (headers.text? "Transfer-Encoding").map Headers.fold, headers.text? "Content-Length" with
  | some "chunked", _ => chunks bytes.length bytes
  | some _, _ => .inl .malformed
  | none, none => .inr []
  | none, some length =>
    match number? 10 (Bytes.ofText length) with
    | none => .inl .malformed
    | some n => if bytes.length < n then .inl .incomplete else .inr (bytes.take n)

/-- What the bytes received so far amount to. -/
def ofBytes (received : Bytes) : Arrival :=
  match cut? (lineEnd ++ lineEnd) received with
  | none => .incomplete
  | some (head, rest) =>
    match lines head with
    | [] => .malformed
    | first :: others =>
      match start? first, others.mapM header? with
      | some (method, uri), some headers =>
        match body headers rest with
        | .inl arrival => arrival
        | .inr body => ((Request.ofParts? method uri headers body).map .complete).getD .malformed
      | _, _ => .malformed

end Arrival

namespace Response

/-- The phrase that stands next to a status. -/
def reason : Nat → String
  | 200 => "OK"
  | 201 => "Created"
  | 202 => "Accepted"
  | 400 => "Bad Request"
  | 401 => "Unauthorized"
  | 404 => "Not Found"
  | 405 => "Method Not Allowed"
  | 409 => "Conflict"
  | 410 => "Gone"
  | 412 => "Precondition Failed"
  | 413 => "Payload Too Large"
  | 422 => "Unprocessable Entity"
  | 500 => "Internal Server Error"
  | _ => ""

/-- The bytes of a body. -/
def bodyBytes (r : Response) : Bytes :=
  match r.body with
  | .empty => []
  | .json value => Bytes.ofText value.text
  | .text value => Bytes.ofText value

/-- The lines above a body. -/
def head (r : Response) : List String :=
  ["HTTP/1.1 " ++ toString r.status ++ " " ++ reason r.status] ++
    (r.contentType.toList.map fun name => "content-type: " ++ name) ++
    (r.allow.toList.map fun methods => "allow: " ++ ",".intercalate (methods.map (·.name))) ++
    ["content-length: " ++ toString r.bodyBytes.length, "connection: close", "", ""]

/-- A response as it is sent. -/
def bytes (r : Response) : Bytes := Bytes.ofText ("\r\n".intercalate r.head) ++ r.bodyBytes

end Response
end Http
end ServiceBroker
