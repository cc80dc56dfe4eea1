import PeerChat.Proofs.Calendar.Timestamp
import PeerChat.Proofs.Json.Text
import PeerChat.Proofs.Json.Whole
import PeerChat.Wire

/-!
Bodies that travel, written and read. Each is put together from kinds of values that are read as they are written:
texts, flags, numbers of 64 bits, moments and words, in records and lists.

* `recovers_list`, `recovers_single`: lists and records of one field of such a kind are of such a kind;
* `recovers_message`, `recovers_offer`, `recovers_response`: and so are the records of several fields;
* `roundTrips_of_recovers`: what is of such a kind is decoded from its text, and from the bytes of its text;
* `bodies_round_trip`: so is every body that client and peer exchange.
-/

namespace PeerChat.Wire

open Transfer (Direction Status Offer Response)
open Json (Plain Field)

/-- A kind of value that travels: how it is written as JSON, and how it is read. -/
structure Body (α : Type) where
  write : α → Json
  read : Json → Except JsonFault α

namespace Body

variable {α : Type} {kind : Body α} {key : String}

/-! ### Kinds of values -/

def text : Body String := ⟨.str, Json.asText⟩

def flag : Body Bool := ⟨.flag, Json.asFlag⟩

def word : Body UInt64 := ⟨fun n => .nat n.toNat, Json.asWord⟩

def timestamp : Body Calendar.Timestamp := ⟨fun t => .str t.text, asTimestamp⟩

def status : Body Status := ⟨fun s => .str s.word, asStatus⟩

def direction : Body Direction := ⟨fun d => .str d.word, asDirection⟩

def list (kind : Body α) : Body (List α) := ⟨fun values => .array (values.map kind.write), Json.asList kind.read⟩

/-- Records of one field. -/
def single (key : String) (kind : Body α) : Body α := ⟨fun v => .record [(key, kind.write v)], asBody key kind.read⟩

def message : Body WireMessage := ⟨ofMessage, asMessage⟩

def offer : Body Offer := ⟨ofOffer, asOffer⟩

/-! ### Bodies -/

def messages : Body (List WireMessage) := ⟨ofMessages, asMessages⟩

def users : Body (List String) := ⟨ofUsers, asUsers⟩

def transfers : Body (List Offer) := ⟨ofTransfers, asTransfers⟩

def blocked : Body (List String) := ⟨ofBlocked, asBlocked⟩

def submission : Body String := ⟨ofSubmission, asSubmission⟩

def response : Body Response := ⟨ofResponse, asResponse⟩

/-! ### Kinds that are read as they are written -/

/-- Every value is written as JSON that a text can write, and read from it. -/
structure Recovers (kind : Body α) : Prop where
  plain (v : α) : (kind.write v).Plain
  read_write (v : α) : kind.read (kind.write v) = .ok v

lemma recovers_text : Recovers text := ⟨fun _ => .text _, fun _ => rfl⟩

lemma recovers_flag : Recovers flag := ⟨fun _ => .flag _, fun _ => rfl⟩

lemma recovers_word : Recovers word := ⟨fun _ => .number nofun, Json.asWord_nat⟩

lemma asTimestamp_text (t : Calendar.Timestamp) : asTimestamp (.str t.text) = .ok t := by
  refine bind_eq_ok_iff.2 ⟨t.text, rfl, ?_⟩
  rw [Calendar.Timestamp.ofText?_text]
  rfl

lemma recovers_timestamp : Recovers timestamp := ⟨fun _ => .text _, asTimestamp_text⟩

lemma recovers_status : Recovers status where
  plain _ := .text _
  read_write s := congrArg Except.ok (Status.ofWord_word s)

lemma recovers_direction : Recovers direction where
  plain _ := .text _
  read_write d := by cases d <;> rfl

/-- Lists of values that are read as they are written are read as they are written. -/
theorem recovers_list (h : Recovers kind) : Recovers (list kind) where
  plain values := .array fun item hitem => by
    obtain ⟨v, -, rfl⟩ := List.mem_map.1 hitem
    exact h.plain v
  read_write values := by
    show (values.map kind.write).mapM kind.read = _
    induction values with
    | nil => rfl
    | cons v values ih => rw [List.map_cons, List.mapM_cons, h.read_write, ih]; rfl

/-! ### Records -/

lemma plain_record {entries : List (String × Json)} (h : ∀ e ∈ entries, e.2.Plain) : (Json.record entries).Plain := by
  refine .object (fun e he => ?_) (fun e he => ?_)
  · obtain ⟨_, -, rfl⟩ := List.mem_map.1 he
    rfl
  · obtain ⟨entry, hentry, rfl⟩ := List.mem_map.1 he
    exact h entry hentry

lemma Recovers.isWritten (h : Recovers kind) (v : α) : (Field.required key kind.read).IsWritten (key, kind.write v) :=
  ⟨rfl, discard_eq_ok_iff.2 ⟨v, h.read_write v⟩⟩

lemma Recovers.isWritten_optional (h : Recovers kind) (default : Json) (v : α) :
    (Field.optional key kind.read default).IsWritten (key, kind.write v) :=
  ⟨rfl, discard_eq_ok_iff.2 ⟨v, h.read_write v⟩⟩

/-- Records of one field of such a kind are of such a kind. -/
theorem recovers_single (key : String) (h : Recovers kind) : Recovers (single key kind) where
  plain v := plain_record (List.forall_mem_singleton.2 (h.plain v))
  read_write v := by
    have hrecord : (Json.record [(key, kind.write v)]).asRecord [.required key kind.read] = .ok [kind.write v] :=
      Json.asRecord_record (by simp) (.cons (h.isWritten v) .nil)
    exact bind_eq_ok_iff.2 ⟨_, hrecord, h.read_write v⟩

theorem recovers_message : Recovers message where
  plain m := plain_record (by simp [Json.str, Plain.text, Plain.flag])
  read_write m := by
    have hrecord : (ofMessage m).asRecord messageFields = .ok [.str m.sender, .str m.recipient, .str m.content,
        .str m.timestamp.text, .flag m.isOwn, .flag m.isPrivate] :=
      Json.asRecord_record (by decide)
        (.cons (recovers_text.isWritten m.sender) (.cons (recovers_text.isWritten m.recipient)
          (.cons (recovers_text.isWritten m.content) (.cons (recovers_timestamp.isWritten m.timestamp)
            (.cons (recovers_flag.isWritten m.isOwn) (.cons (recovers_flag.isWritten m.isPrivate) .nil))))))
    refine bind_eq_ok_iff.2 ⟨_, hrecord, ?_⟩
    refine bind_eq_ok_iff.2 ⟨m.sender, rfl, ?_⟩
    refine bind_eq_ok_iff.2 ⟨m.recipient, rfl, ?_⟩
    refine bind_eq_ok_iff.2 ⟨m.content, rfl, ?_⟩
    exact bind_eq_ok_iff.2 ⟨m.timestamp, asTimestamp_text m.timestamp, rfl⟩

theorem recovers_offer : Recovers offer where
  plain o := plain_record (by simp [Json.str, Json.nat, Numeral.ofNat, Plain.text, Plain.number])
  read_write o := by
    have hdirection : asDirection (.str o.direction.word) = .ok o.direction := recovers_direction.read_write o.direction
    have hstatus : asStatus (.str o.status.word) = .ok o.status := recovers_status.read_write o.status
    have hrecord : (ofOffer o).asRecord offerFields = .ok [.str o.fileId, .str o.fileName, .nat o.fileSize.toNat,
        .nat o.progress.toNat, .str o.status.word, .str o.direction.word, .str o.peerName] :=
      Json.asRecord_record (by decide)
        (.cons (recovers_text.isWritten o.fileId) (.cons (recovers_text.isWritten o.fileName)
          (.cons (recovers_word.isWritten o.fileSize) (.cons (recovers_word.isWritten_optional _ o.progress)
            (.cons (recovers_status.isWritten o.status) (.cons (recovers_direction.isWritten o.direction)
              (.cons (recovers_text.isWritten o.peerName) .nil)))))))
    refine bind_eq_ok_iff.2 ⟨_, hrecord, ?_⟩
    refine bind_eq_ok_iff.2 ⟨o.fileId, rfl, ?_⟩
    refine bind_eq_ok_iff.2 ⟨o.fileName, rfl, ?_⟩
    refine bind_eq_ok_iff.2 ⟨o.fileSize, Json.asWord_nat o.fileSize, ?_⟩
    refine bind_eq_ok_iff.2 ⟨o.progress, Json.asWord_nat o.progress, ?_⟩
    refine bind_eq_ok_iff.2 ⟨o.status, hstatus, ?_⟩
    exact bind_eq_ok_iff.2 ⟨o.direction, hdirection, rfl⟩

theorem recovers_response : Recovers response where
  plain r := plain_record (by simp [Json.str, Plain.text, Plain.flag])
  read_write r := by
    have hrecord : (ofResponse r).asRecord responseFields = .ok [.str r.fileId, .flag r.accepted] :=
      Json.asRecord_record (by decide)
        (.cons (recovers_text.isWritten r.fileId) (.cons (recovers_flag.isWritten r.accepted) .nil))
    exact bind_eq_ok_iff.2 ⟨_, hrecord, rfl⟩

/-! ### Texts of bodies -/

/-- The text that a value is written as. -/
def encode (kind : Body α) (v : α) : String := (kind.write v).toText

/-- The value that a text writes. -/
def decode (kind : Body α) (s : String) : Except JsonFault α := Json.decode kind.read s.toList

/-- How values and texts go together. -/
structure RoundTrips (kind : Body α) : Prop where
  /-- Every value is decoded from its text. -/
  decode_encode (v : α) : kind.decode (kind.encode v) = .ok v
  /-- So it is from the bytes of its text, in which it travels. -/
  decodeBytes_encode (v : α) : Json.decodeBytes kind.read (kind.encode v).toUTF8 = .ok v
  /-- No other value has its text. -/
  eq_of_encode_eq (v other : α) : kind.encode other = kind.encode v → other = v
  /-- Whatever text a value was decoded from, the text that it is written as is decoded as the same. -/
  decode_again (s : String) (v : α) : kind.decode s = .ok v → kind.decode (kind.encode v) = kind.decode s

theorem roundTrips_of_recovers (h : Recovers kind) : RoundTrips kind := by
  have hdecode (v : α) : kind.decode (kind.encode v) = .ok v :=
    Json.decode_eq_ok_iff.2 ⟨kind.write v, Json.ofText?_toText (h.plain v), h.read_write v⟩
  refine ⟨hdecode, fun v => ?_, fun v other heq => ?_, fun s v hs => (hdecode v).trans hs.symm⟩
  · rw [Json.decodeBytes_toUTF8]
    exact hdecode v
  · have hother := hdecode other
    rw [heq, hdecode v] at hother
    exact (Except.ok.inj hother).symm

/-- **Every body that client and peer exchange is decoded as what it was encoded from**, and what is decoded from any
text comes back from the text that it is encoded to. -/
theorem bodies_round_trip : RoundTrips messages ∧ RoundTrips users ∧ RoundTrips transfers ∧ RoundTrips blocked ∧
    RoundTrips submission ∧ RoundTrips response :=
  ⟨roundTrips_of_recovers (recovers_single "messages" (recovers_list recovers_message)),
    roundTrips_of_recovers (recovers_single "users" (recovers_list recovers_text)),
    roundTrips_of_recovers (recovers_single "transfers" (recovers_list recovers_offer)),
    roundTrips_of_recovers (recovers_single "blocked" (recovers_list recovers_text)),
    roundTrips_of_recovers (recovers_single "message" recovers_text),
    roundTrips_of_recovers recovers_response⟩

end Body

end PeerChat.Wire
