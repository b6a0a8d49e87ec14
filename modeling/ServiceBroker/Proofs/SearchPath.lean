/-
# A search carries its name

The path of a search holds its filter as JSON in percent coding.  Both codings are undone by
their readers: bytes in percent coding are decoded again (`Percent.decode_encode`), and the
filter is read back from its text (`Json.parse?_text`).  So the name is in the path whatever its
characters are, and two names never share a path (`Client.searchPath_injective`).

It is the request for that path that a search sends, and no other one (`Client.sends_find`).
-/

import ServiceBroker.Proofs.Encoding
import ServiceBroker.Proofs.Printing
import ServiceBroker.Proofs.Repertoire
import ServiceBroker.Proofs.Retrying

namespace ServiceBroker
namespace Percent

/-- A character that stands for itself in a URL. -/
def Unreserved (c : Char) : Prop := c.isAlphanum = true ∨ c ∈ ['-', '.', '_', '~']

/-- A hexadecimal digit in upper case. -/
def UpperHex (c : Char) : Prop := c ∈ "0123456789ABCDEF".toList

/-- What one byte is written as: a character that stands for itself, or a percent sign and two
digits. -/
inductive Piece : List Char → Prop where
  | plain {c : Char} (unreserved : Unreserved c) : Piece [c]
  | escape {a b : Char} (high : UpperHex a) (low : UpperHex b) : Piece ['%', a, b]

variable {b : UInt8}

/-- A byte that stands for itself is one of ASCII. -/
theorem lt_of_isUnreserved (plain : isUnreserved b = true) : b < 0x80 :=
  Bytes.forall_byte (p := fun b => isUnreserved b = true → b < 0x80) (by decide +kernel) b plain

/-- A byte that stands for itself is not the percent sign. -/
theorem ne_sign_of_isUnreserved (plain : isUnreserved b = true) : b ≠ sign := by
  rintro rfl
  cases plain

/-- A byte that stands for itself is a character that does. -/
theorem unreserved_of_isUnreserved (plain : isUnreserved b = true) :
    Unreserved (Char.ofNat b.toNat) :=
  Bytes.forall_byte (p := fun b => isUnreserved b = true → (Char.ofNat b.toNat).isAlphanum = true ∨
    Char.ofNat b.toNat ∈ ['-', '.', '_', '~']) (by decide +kernel) b plain

/-- A digit is a byte of ASCII. -/
theorem digit_lt {n : Nat} (small : n < 16) : Hex.digit n < 0x80 := by
  have all : ∀ n : Fin 16, Hex.digit n.val < 0x80 := by decide
  exact all ⟨n, small⟩

/-- A digit is a hexadecimal one in upper case. -/
theorem upperHex_digit {n : Nat} (small : n < 16) : UpperHex (Char.ofNat (Hex.digit n).toNat) := by
  have all : ∀ n : Fin 16,
      Char.ofNat (Hex.digit n.val).toNat ∈ "0123456789ABCDEF".toList := by decide
  exact all ⟨n, small⟩

/-- Both digits of a byte are digits. -/
theorem halves_lt (b : UInt8) : b.toNat / 16 < 16 ∧ b.toNat % 16 < 16 := by
  have := b.toNat_lt
  omega

/-- What one byte is written as, as characters, is one piece. -/
theorem piece_encodeByte (b : UInt8) :
    Piece ((encodeByte b).map fun b => Char.ofNat b.toNat) := by
  rw [encodeByte]
  split_ifs with plain
  · exact .plain (unreserved_of_isUnreserved plain)
  · exact .escape (upperHex_digit (halves_lt b).1) (upperHex_digit (halves_lt b).2)

/-- An encoded text is one of ASCII. -/
theorem encode_lt (bytes : Bytes) : ∀ b ∈ encode bytes, b < 0x80 := by
  intro b there
  obtain ⟨c, -, inside⟩ := List.mem_flatMap.1 there
  rw [encodeByte] at inside
  split_ifs at inside with plain
  · rw [List.mem_singleton.1 inside]
    exact lt_of_isUnreserved plain
  · simp only [List.mem_cons, List.not_mem_nil, or_false] at inside
    rcases inside with rfl | rfl | rfl
    · decide
    · exact digit_lt (halves_lt c).1
    · exact digit_lt (halves_lt c).2

/-- A byte that is no percent sign is passed over. -/
theorem decode_cons_of_ne (other : b ≠ sign) (rest : Bytes) :
    decode (b :: rest) = b :: decode rest := by
  match rest with
  | [] => rfl
  | [c] => rfl
  | c :: d :: rest => rw [decode, if_neg other]

/-- A byte that was encoded is decoded, and then the rest. -/
theorem decode_encodeByte_append (b : UInt8) (rest : Bytes) :
    decode (encodeByte b ++ rest) = b :: decode rest := by
  rw [encodeByte]
  split_ifs with plain
  · exact decode_cons_of_ne (ne_sign_of_isUnreserved plain) rest
  · have pair : pair? (Hex.digit (b.toNat / 16)) (Hex.digit (b.toNat % 16)) = some b := by
      have whole : b.toNat / 16 * 16 + b.toNat % 16 = b.toNat := by omega
      rw [pair?, Hex.value?_digit (halves_lt b).1, Hex.value?_digit (halves_lt b).2]
      simp only [Option.bind_eq_bind, Option.bind_some, whole, UInt8.ofNat_toNat]
      rfl
    rw [List.cons_append, List.cons_append, List.cons_append, List.nil_append, decode, if_pos rfl,
      pair]

/-- **What is written in percent coding is decoded again.** -/
theorem decode_encode (bytes : Bytes) : decode (encode bytes) = bytes := by
  induction bytes with
  | nil => rfl
  | cons b rest ih =>
    rw [encode, List.flatMap_cons, decode_encodeByte_append, ← encode, ih]

end Percent

namespace Provider
namespace Rest
namespace Client

/-- The query of a search, as text. -/
theorem searchPath_eq (name : String) : searchPath name =
    "/appliance?" ++ Bytes.latin (Percent.encode (Bytes.ofText (filter name).text)) := rfl

/-- The filter of a search can be read. -/
theorem readable_filter (name : String) : Json.Readable Json.Document.maxDepth (filter name) := by
  have inner : Json.Readable 126
      (.object [("Class", .string "database"), ("Name", .string name)]) := by
    have ascending : ["Class", "Name"].Pairwise (· < ·) := by decide +kernel
    refine .object ascending ?_
    simp only [List.forall_mem_cons]
    exact ⟨.string _, .string _, List.forall_mem_nil _⟩
  refine .object (List.pairwise_singleton _ _) ?_
  simp only [List.forall_mem_cons]
  exact ⟨inner, List.forall_mem_nil _⟩

/-- The filter is read back from the query. -/
theorem parse?_decode_query (name : String) :
    Json.parse? (Percent.decode (Bytes.ofText
      (Bytes.latin (Percent.encode (Bytes.ofText (filter name).text))))) = some (filter name) := by
  rw [Bytes.ofText_latin (Percent.encode_lt _), Percent.decode_encode,
    Json.parse?_text (readable_filter name)]

/-- Filters of different names differ. -/
theorem filter_injective : Function.Injective filter := by
  intro a b same
  rw [filter, filter] at same
  simpa using same

/-- **Two names never share a path.** -/
theorem searchPath_injective : Function.Injective searchPath := by
  intro a b same
  rw [searchPath, searchPath] at same
  have query := (String.append_right_inj _).1 same
  have read := parse?_decode_query a
  rw [query, parse?_decode_query b] at read
  exact (filter_injective (Option.some.inj read)).symm

/-- **Nor do their searches**, whatever the client is. -/
theorem search_injective (client : Client) :
    Function.Injective fun name => client.request .get (searchPath name) none := by
  intro a b same
  have urls : client.baseUrl ++ searchPath a = client.baseUrl ++ searchPath b :=
    congrArg Request.url same
  exact searchPath_injective ((String.append_right_inj _).1 urls)

/-- A program of the client that begins with a request and sends no other one. -/
def Sends {α : Type} (request : Request) (p : Program exchange α) : Prop :=
  (∃ next, p = .ask (I := exchange) (.send request) next) ∧
    p.Only fun e => ∀ sent, e = Exchange.send sent → sent = request

/-- However often it is tried again, it is the same request. -/
theorem sends_retrying (interval : Duration) (request : Request) (n : Nat) :
    Sends request (retrying interval request n) := by
  induction n with
  | zero => exact ⟨⟨_, rfl⟩, fun sent is => (Exchange.send.inj is).symm, fun reply => trivial⟩
  | succ n ih =>
    rw [retrying_succ]
    refine ⟨⟨_, rfl⟩, fun sent is => (Exchange.send.inj is).symm, fun reply => ?_⟩
    beta_reduce
    split_ifs
    · exact ⟨nofun, fun _ => ih.2⟩
    · trivial

/-- What is made of a reply sends nothing more. -/
theorem Sends.bind {α β : Type} {request : Request} {p : Action α} {f : α → Action β}
    (first : Sends request p.run)
    (silent : ∀ value, ∃ result, (f value).run = .done result) : Sends request (p >>= f).run := by
  obtain ⟨⟨next, is⟩, only⟩ := first
  refine ⟨⟨_, by rw [Program.run_bind_except, is]; rfl⟩, only.bind fun value => ?_⟩
  obtain ⟨result, ends⟩ := silent value
  rw [ends]
  trivial

/-- **A search sends the request for its path**, and no other one. -/
theorem sends_find (client : Client) (name : String) :
    Sends (client.request .get (searchPath name) none) (client.find name).run := by
  have existing : Sends (client.request .get (searchPath name) none)
      (client.callExisting .get (searchPath name)).run := by
    refine Sends.bind (sends_retrying _ _ _) fun value => ?_
    cases value <;> exact ⟨_, rfl⟩
  refine existing.bind fun value => ?_
  rw [decode]
  cases Wire.listing? value <;> exact ⟨_, rfl⟩

/-- **A search carries its name.**  Its request, the only one that it sends, has the path of the
appliances and a query in percent coding, made of characters that stand for themselves and of bytes
written with two digits.  The query, decoded and read as JSON, is the filter for the class of
databases and for the name, letter for letter.  So two names never make the same request. -/
theorem search_carries_name (client : Client) (name : String) :
    ∃ query : String, searchPath name = "/appliance?" ++ query ∧
      (∃ pieces : List (List Char), query.toList = pieces.flatten ∧
        ∀ piece ∈ pieces, Percent.Piece piece) ∧
      Json.parse? (Percent.decode (Bytes.ofText query)) =
        some (.object [("Filter",
          .object [("Class", .string "database"), ("Name", .string name)])]) ∧
      Sends (client.request .get (searchPath name) none) (client.find name).run ∧
      ∀ other, client.request .get (searchPath name) none =
        client.request .get (searchPath other) none ↔ name = other := by
  refine ⟨_, searchPath_eq name, ⟨(Bytes.ofText (filter name).text).map fun b =>
    (Percent.encodeByte b).map fun b => Char.ofNat b.toNat, ?_, ?_⟩, parse?_decode_query name,
    sends_find client name, fun other => (search_injective client).eq_iff⟩
  · rw [Bytes.latin, String.toList_ofList, Percent.encode, List.map_flatMap, List.flatMap_def]
  · intro piece there
    obtain ⟨b, -, rfl⟩ := List.mem_map.1 there
    exact Percent.piece_encodeByte b

example : searchPath "é\"" = "/appliance?%7B%22Filter%22%3A%7B%22Class%22%3A%22database%22%2C" ++
    "%22Name%22%3A%22%C3%A9%5C%22%22%7D%7D" := by
  decide +kernel

end Client
end Rest
end Provider
end ServiceBroker
