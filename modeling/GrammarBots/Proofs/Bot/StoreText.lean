import GrammarBots.Bot.StoreText
import GrammarBots.Proofs.Time.Timestamps
import GrammarBots.Proofs.Toml.Documents

/-!
# The text of a bot store is read back

`StoreText.decode?_encode` says that the bots of a store are read back from its text, if each of
their instants is read back from its own.

What is written of a bot is a list of rows, each a key with a value that may be unset: `botRows`
and `credentialRows`.  The text of a bot has a line for each row that is set (`encodeBot_eq`),
reading it gives the table of these rows (`readStatements_encodeBot`), and in that table a key is
looked up as in the rows (`lookup_of_mem`), so that a row that is unset reads as unset again.
-/

namespace GrammarBots.StoreText

open GrammarBots.Toml

/-! ### Rows -/

/-- A key, and its value if it is set, as it is written and as it is. -/
abbrev Row := String × Option (Text × Value)

/-- The fields of the rows that are set. -/
def fieldsOf (rows : List Row) : List Field :=
  rows.filterMap fun row => row.2.map fun value => ⟨row.1, value.1, value.2⟩

/-- A string as a value. -/
def stringValue (s : String) : Text × Value := (quote s.toList, .string s.toList)

/-- An instant as a value. -/
def instantValue (t : Instant) : Text × Value := (quote t.text, .string t.text)

/-- The rows of an account. -/
def credentialRows (c : Credentials) : List Row :=
  [("access_token", some (stringValue c.accessToken)), ("api_base", c.apiBase.map stringValue)]

/-- The rows of a bot, its account apart. -/
def botRows (bot : BotRecord) : List Row :=
  [("id", some (stringValue bot.id)), ("name", some (stringValue bot.name)),
    ("disabled", some (boolean bot.disabled, .boolean bot.disabled)),
    ("schedule", some (natural bot.schedule, .integer bot.schedule)),
    ("next_run", bot.nextRun.map instantValue), ("last_run", bot.lastRun.map instantValue),
    ("last_error", bot.lastError.map stringValue), ("script", some (stringValue bot.script))]

/-- The table of an account. -/
def credentialEntries (c : Credentials) : Entries := entriesOf (fieldsOf (credentialRows c))

/-- The table of a bot. -/
def botEntries (bot : BotRecord) : Entries :=
  entriesOf (fieldsOf (botRows bot)) ++
    [("credentials".toList, .table .headed (credentialEntries bot.credentials))]

variable {rows : List Row}

theorem linesOf_fieldsOf_nil : linesOf (fieldsOf []) = [] := rfl

theorem linesOf_fieldsOf_some (key : String) (value : Text × Value) (rows : List Row) :
    linesOf (fieldsOf ((key, some value) :: rows))
      = line key value.1 ++ linesOf (fieldsOf rows) := rfl

theorem linesOf_fieldsOf_string (key : String) (value : Option String) (rows : List Row) :
    linesOf (fieldsOf ((key, value.map stringValue) :: rows))
      = optionalLine key value ++ linesOf (fieldsOf rows) := by
  cases value <;> rfl

theorem linesOf_fieldsOf_instant (key : String) (value : Option Instant) (rows : List Row) :
    linesOf (fieldsOf ((key, value.map instantValue) :: rows))
      = instantLine key value ++ linesOf (fieldsOf rows) := by
  cases value <;> rfl

/-- **The text of a bot**: a line for each row that is set, below the headers. -/
theorem encodeBot_eq (bot : BotRecord) :
    encodeBot bot = "[[bots]]\n".toList ++ (linesOf (fieldsOf (botRows bot)) ++
      '\n' :: ("[bots.credentials]\n".toList ++
        linesOf (fieldsOf (credentialRows bot.credentials)))) := by
  unfold encodeBot encodeCredentials botRows credentialRows
  simp only [linesOf_fieldsOf_some, linesOf_fieldsOf_string, linesOf_fieldsOf_instant,
    linesOf_fieldsOf_nil, stringLine, stringValue, List.append_nil, List.append_assoc]

/-- A key that no row has is not found. -/
theorem lookup_of_notMem {key : String} (h : key ∉ rows.map Prod.fst) :
    (entriesOf (fieldsOf rows)).lookup key.toList = none := by
  refine List.lookup_eq_none_iff.mpr fun entry hentry => bne_iff_ne.mpr fun heq => h ?_
  obtain ⟨field, hfield, rfl⟩ := List.mem_map.mp hentry
  obtain ⟨row, hrow, hset⟩ := List.mem_filterMap.mp hfield
  obtain ⟨value, -, rfl⟩ := Option.map_eq_some_iff.mp hset
  exact List.mem_map.mpr ⟨row, hrow, (String.toList_inj.mp heq).symm⟩

/-- The key of a row is found if the row is set. -/
theorem lookup_of_mem (hdistinct : (rows.map Prod.fst).Nodup) {key : String}
    {value : Option (Text × Value)} (h : (key, value) ∈ rows) :
    (entriesOf (fieldsOf rows)).lookup key.toList = value.map Prod.snd := by
  induction rows with
  | nil => exact absurd h List.not_mem_nil
  | cons row rows ih =>
    rw [List.map_cons, List.nodup_cons] at hdistinct
    have hnone : entriesOf (fieldsOf ((row.1, none) :: rows)) = entriesOf (fieldsOf rows) := rfl
    have hsome (value : Text × Value) : entriesOf (fieldsOf ((row.1, some value) :: rows))
        = (row.1.toList, value.2) :: entriesOf (fieldsOf rows) := rfl
    rcases List.mem_cons.mp h with rfl | hmem
    · cases value with
      | none => rw [hnone, lookup_of_notMem hdistinct.1, Option.map_none]
      | some value => rw [hsome, List.lookup_cons_self, Option.map_some]
    · have hne : (key.toList == row.1.toList) = false := by
        refine beq_false_of_ne fun heq => hdistinct.1 ?_
        exact List.mem_map.mpr ⟨_, hmem, String.toList_inj.mp heq⟩
      rw [← ih hdistinct.2 hmem]
      obtain ⟨k, value⟩ := row
      cases value with
      | none => rw [hnone]
      | some value => rw [hsome, List.lookup_cons, hne]

/-- The keys of the fields are distinct if those of the rows are. -/
theorem nodup_fieldsOf (hdistinct : (rows.map Prod.fst).Nodup) :
    ((fieldsOf rows).map Field.key).Nodup := by
  refine hdistinct.sublist ?_
  induction rows with
  | nil => exact List.Sublist.refl _
  | cons row rows ih =>
    rw [List.map_cons, List.nodup_cons] at hdistinct
    obtain ⟨k, value⟩ := row
    cases value with
    | none => exact (ih hdistinct.2).cons _
    | some value => exact (ih hdistinct.2).cons_cons _

/-- The fields of rows are read if the values that are set are. -/
theorem isRead_fieldsOf
    (h : ∀ row ∈ rows, ∀ value ∈ row.2, Field.IsRead ⟨row.1, value.1, value.2⟩) :
    ∀ f ∈ fieldsOf rows, f.IsRead := by
  intro f hf
  obtain ⟨row, hrow, hfield⟩ := List.mem_filterMap.mp hf
  obtain ⟨value, hvalue, rfl⟩ := Option.map_eq_some_iff.mp hfield
  exact h row hrow value hvalue

/-! ### The fields of a bot -/

variable {bot : BotRecord}

theorem isBare_of_all {key : String}
    (h : key.toList ≠ [] ∧ key.toList.all isKeyChar = true) : IsBare key.toList :=
  ⟨h.1, List.all_eq_true.mp h.2⟩

theorem isRead_stringValue {key : String} (hkey : IsBare key.toList) (value : Option String)
    {v : Text × Value} (h : v ∈ value.map stringValue) : Field.IsRead ⟨key, v.1, v.2⟩ := by
  obtain ⟨s, -, rfl⟩ := Option.map_eq_some_iff.mp h
  exact Field.isRead_string hkey s.toList

theorem isRead_instantValue {key : String} (hkey : IsBare key.toList) {value : Option Instant}
    {v : Text × Value} (h : v ∈ value.map instantValue) : Field.IsRead ⟨key, v.1, v.2⟩ := by
  obtain ⟨t, -, rfl⟩ := Option.map_eq_some_iff.mp h
  exact Field.isRead_string hkey t.text

theorem isRead_credentialRows (c : Credentials) :
    ∀ f ∈ fieldsOf (credentialRows c), f.IsRead := by
  refine isRead_fieldsOf ?_
  simp only [credentialRows, List.forall_mem_cons]
  refine ⟨fun v hv => ?_, fun v hv => ?_, List.forall_mem_nil _⟩
  · exact isRead_stringValue (isBare_of_all (by decide)) (some c.accessToken) hv
  · exact isRead_stringValue (isBare_of_all (by decide)) c.apiBase hv

/-- Each field of a bot is read, if its schedule is a number of 64 bits. -/
theorem isRead_botRows (hschedule : bot.schedule < UInt64.size) :
    ∀ f ∈ fieldsOf (botRows bot), f.IsRead := by
  refine isRead_fieldsOf ?_
  simp only [botRows, List.forall_mem_cons]
  refine ⟨fun v hv => ?_, fun v hv => ?_, fun v hv => ?_, fun v hv => ?_, fun v hv => ?_,
    fun v hv => ?_, fun v hv => ?_, fun v hv => ?_, List.forall_mem_nil _⟩
  · exact isRead_stringValue (isBare_of_all (by decide)) (some bot.id) hv
  · exact isRead_stringValue (isBare_of_all (by decide)) (some bot.name) hv
  · obtain rfl := Option.some.inj hv
    exact Field.isRead_boolean (isBare_of_all (by decide)) bot.disabled
  · obtain rfl := Option.some.inj hv
    exact Field.isRead_natural (isBare_of_all (by decide)) hschedule
  · exact isRead_instantValue (isBare_of_all (by decide)) hv
  · exact isRead_instantValue (isBare_of_all (by decide)) hv
  · exact isRead_stringValue (isBare_of_all (by decide)) bot.lastError hv
  · exact isRead_stringValue (isBare_of_all (by decide)) (some bot.script) hv

theorem nodup_credentialRows (c : Credentials) : ((credentialRows c).map Prod.fst).Nodup :=
  (by decide : ["access_token", "api_base"].Nodup)

theorem nodup_botRows (bot : BotRecord) : ((botRows bot).map Prod.fst).Nodup :=
  (by decide : ["id", "name", "disabled", "schedule", "next_run", "last_run", "last_error",
    "script"].Nodup)

/-- No row of a bot has the key of its account. -/
theorem lookup_credentials (bot : BotRecord) :
    (entriesOf (fieldsOf (botRows bot))).lookup "credentials".toList = none := by
  have hkeys : (botRows bot).map Prod.fst = ["id", "name", "disabled", "schedule", "next_run",
      "last_run", "last_error", "script"] := rfl
  exact lookup_of_notMem (by rw [hkeys]; decide)

/-! ### Documents -/

/-- **The text of a bot** adds its table to those of the bots before it. -/
theorem readStatements_encodeBot (hschedule : bot.schedule < UInt64.size) {root : Entries}
    {done : List Entries} (header : List Text)
    (hopen : openElement "bots".toList .headed root
      = some (.headed, [("bots".toList, .tables (done ++ [[]]))])) (n : Nat) (rest : Text) :
    readStatements ⟨root, header⟩ (List.replicate n '\n' ++ (encodeBot bot ++ rest))
      = readStatements ⟨[("bots".toList, .tables (done ++ [botEntries bot]))],
          ["bots".toList, "credentials".toList]⟩ rest := by
  have hbots : IsBare "bots".toList := isBare_of_all (by decide)
  have hcredentials : IsBare "credentials".toList := isBare_of_all (by decide)
  have hfields := lookup_credentials bot
  have hplace : IsPlace ["bots".toList] fun entries =>
      [("bots".toList, .tables (done ++ [entries]))] := isPlace_root.element done
  have hplace' : IsPlace ["bots".toList, "credentials".toList] fun entries =>
      [("bots".toList, .tables (done ++ [entriesOf (fieldsOf (botRows bot)) ++
        [("credentials".toList, .table .headed entries)]]))] :=
    (isPlace_root.table hfields).element done
  have htext : List.replicate n '\n' ++ (encodeBot bot ++ rest) = List.replicate n '\n' ++
      '[' :: '[' :: ("bots".toList ++ ']' :: ']' :: '\n' :: (linesOf (fieldsOf (botRows bot)) ++
        (List.replicate 1 '\n' ++ '[' :: ("bots".toList ++ '.' :: ("credentials".toList ++
          ']' :: '\n' :: (linesOf (fieldsOf (credentialRows bot.credentials)) ++ rest)))))) := by
    rw [encodeBot_eq]
    simp
  calc readStatements ⟨root, header⟩ (List.replicate n '\n' ++ (encodeBot bot ++ rest))
    _ = readStatements ⟨[("bots".toList, .tables (done ++ [[]]))], ["bots".toList]⟩ _ := by
        rw [htext]
        exact readStatements_element hbots hopen n _
    _ = readStatements ⟨[("bots".toList, .tables (done ++ [entriesOf (fieldsOf (botRows bot))]))],
          ["bots".toList]⟩ _ :=
        readStatements_linesOf hplace (isRead_botRows hschedule)
          (nodup_fieldsOf (nodup_botRows bot)) (fun _ _ => rfl) _
    _ = readStatements ⟨[("bots".toList, .tables (done ++ [entriesOf (fieldsOf (botRows bot)) ++
          [("credentials".toList, Value.table .headed [])]]))],
          ["bots".toList, "credentials".toList]⟩ _ :=
        readStatements_table hbots hcredentials hplace hfields 1 _
    _ = readStatements ⟨[("bots".toList, .tables (done ++ [botEntries bot]))],
          ["bots".toList, "credentials".toList]⟩ rest :=
        readStatements_linesOf hplace' (isRead_credentialRows bot.credentials)
          (nodup_fieldsOf (nodup_credentialRows bot.credentials)) (fun _ _ => rfl) rest

/-- The texts of more bots, each behind an empty line. -/
theorem readStatements_flatMap {bots : List BotRecord}
    (hschedules : ∀ bot ∈ bots, bot.schedule < UInt64.size) (done : List Entries)
    (header : List Text) :
    readStatements ⟨[("bots".toList, .tables done)], header⟩
        (bots.flatMap fun bot => '\n' :: encodeBot bot)
      = some [("bots".toList, .tables (done ++ bots.map botEntries))] := by
  induction bots generalizing done header with
  | nil => rw [List.flatMap_nil, readStatements_nil, List.map_nil, List.append_nil]
  | cons bot bots ih =>
    obtain ⟨hbot, hbots⟩ := List.forall_mem_cons.mp hschedules
    have hopen : openElement "bots".toList .headed [("bots".toList, .tables done)]
        = some (.headed, [("bots".toList, .tables (done ++ [[]]))]) := by
      simp [openElement, setEntry]
    have hread := readStatements_encodeBot hbot header hopen 1
      (bots.flatMap fun bot => '\n' :: encodeBot bot)
    rw [List.flatMap_cons, List.map_cons, List.append_cons, ← ih hbots, ← hread]
    rfl

/-- **The document of a store** has a table for each bot, in order. -/
theorem read?_encode {bots : List BotRecord} (hne : bots ≠ [])
    (hschedules : ∀ bot ∈ bots, bot.schedule < UInt64.size) :
    read? (encode bots).toList = some [("bots".toList, .tables (bots.map botEntries))] := by
  obtain ⟨bot, bots, rfl⟩ := List.exists_cons_of_ne_nil hne
  obtain ⟨hbot, hbots⟩ := List.forall_mem_cons.mp hschedules
  have htext : (encode (bot :: bots)).toList
      = encodeBot bot ++ bots.flatMap fun bot => '\n' :: encodeBot bot := by
    rw [encode, if_neg (by simp), Text.str, String.toList_ofList, List.map_cons, Text.join_cons,
      List.flatMap_map]
    rfl
  have hopen : openElement "bots".toList .headed []
      = some (.headed, [("bots".toList, .tables ([] ++ [[]]))]) := rfl
  have hread := readStatements_encodeBot hbot [] hopen 0
    (bots.flatMap fun bot => '\n' :: encodeBot bot)
  have hhead : (encodeBot bot ++ bots.flatMap fun bot => '\n' :: encodeBot bot).head?
      ≠ some '\uFEFF' := by
    rw [encodeBot_eq]
    exact fun h => absurd (Option.some.inj h) (by decide)
  rw [htext, read?_eq hhead]
  exact hread.trans (readStatements_flatMap hbots _ _)

/-! ### Reading fields -/

variable {α : Type} {read : Value → Option α} {fields : Entries} {key : String}

/-- A field that must be given reads as what was written. -/
theorem required_eq (written : Text × Value) {a : α}
    (h : fields.lookup key.toList = (some written).map Prod.snd)
    (hread : read written.2 = some a) : required read fields key = some a := by
  rw [required, h, ← hread]
  rfl

/-- A field that may be left out reads as what was written, set or unset. -/
theorem optional_eq (written : α → Text × Value) {value : Option α}
    (h : fields.lookup key.toList = (value.map written).map Prod.snd)
    (hread : ∀ a ∈ value, read (written a).2 = some a) : optional read fields key = some value := by
  rw [optional, h]
  cases value with
  | none => rfl
  | some a =>
    rw [Option.map_some, Option.map_some]
    exact congrArg (Option.map some) (hread a rfl)

theorem natural64?_integer {n : Nat} (h : n < UInt64.size) :
    Value.natural64? (.integer n) = some n := by
  rw [Value.natural64?, if_pos ⟨Int.natCast_nonneg n, Int.ofNat_lt.mpr h⟩, Int.toNat_natCast]

theorem readString_stringValue (s : String) : readString (stringValue s).2 = some s :=
  congrArg some String.ofList_toList

theorem readInstant_instantValue {t : Instant} (h : Instant.read? t.text = some t) :
    readInstant (instantValue t).2 = some t := by
  rw [← h]
  rfl

/-! ### Reading bots -/

/-- **An account** is read from its table. -/
theorem readCredentials_entries (c : Credentials) :
    readCredentials (.table .headed (credentialEntries c)) = some c := by
  have hlookup {key : String} {value : Option (Text × Value)}
      (hrow : (key, value) ∈ credentialRows c) :
      (credentialEntries c).lookup key.toList = value.map Prod.snd :=
    lookup_of_mem (nodup_credentialRows c) hrow
  have htoken : required readString (credentialEntries c) "access_token" = some c.accessToken :=
    required_eq _ (hlookup (by simp [credentialRows])) (readString_stringValue c.accessToken)
  have hbase : optional readString (credentialEntries c) "api_base" = some c.apiBase :=
    optional_eq _ (hlookup (by simp [credentialRows])) fun s _ => readString_stringValue s
  generalize credentialEntries c = fields at *
  simp [readCredentials, Value.fields?, htoken, hbase]

/-- A bot is read from any table in which its fields are found. -/
theorem readBot_of_fields (hid : required readString fields "id" = some bot.id)
    (hname : required readString fields "name" = some bot.name)
    (hdisabled : optional Value.boolean? fields "disabled" = some (some bot.disabled))
    (hschedule : required Value.natural64? fields "schedule" = some bot.schedule)
    (hnext : optional readInstant fields "next_run" = some bot.nextRun)
    (hlast : optional readInstant fields "last_run" = some bot.lastRun)
    (herror : optional readString fields "last_error" = some bot.lastError)
    (hscript : required readString fields "script" = some bot.script)
    (haccount : optional readCredentials fields "credentials" = some (some bot.credentials)) :
    readBot (.table .headed fields) = some bot := by
  have hfields : (Value.table .headed fields).fields? fieldNames = some fields := rfl
  rw [readBot, hfields]
  simp only [Option.bind_eq_bind, Option.bind_some, hid, hname, hdisabled, hschedule, hnext, hlast,
    herror, hscript, haccount, Option.getD_some]
  rfl

/-- A bot whose instants are read back from their texts. -/
def HasReadableInstants (bot : BotRecord) : Prop :=
  ∀ t, bot.nextRun = some t ∨ bot.lastRun = some t → Instant.read? t.text = some t

/-- **A bot** is read from its table. -/
theorem readBot_entries (hschedule : bot.schedule < UInt64.size)
    (hinstants : HasReadableInstants bot) :
    readBot (.table .headed (botEntries bot)) = some bot := by
  have hlookup {key : String} (hkey : key ≠ "credentials") {value : Option (Text × Value)}
      (hrow : (key, value) ∈ botRows bot) :
      (botEntries bot).lookup key.toList = value.map Prod.snd := by
    have hne : (key.toList == "credentials".toList) = false :=
      beq_false_of_ne fun heq => hkey (String.toList_inj.mp heq)
    rw [botEntries, List.lookup_append, lookup_of_mem (nodup_botRows bot) hrow, List.lookup_cons,
      hne]
    exact Option.or_none
  have hid : required readString (botEntries bot) "id" = some bot.id :=
    required_eq _ (hlookup (by decide) (by simp [botRows])) (readString_stringValue bot.id)
  have hname : required readString (botEntries bot) "name" = some bot.name :=
    required_eq _ (hlookup (by decide) (by simp [botRows])) (readString_stringValue bot.name)
  have hdisabled : optional Value.boolean? (botEntries bot) "disabled" = some (some bot.disabled) :=
    optional_eq (fun b => (boolean b, .boolean b))
      (hlookup (by decide) (by simp [botRows])) fun _ _ => rfl
  have hseconds : required Value.natural64? (botEntries bot) "schedule" = some bot.schedule :=
    required_eq (natural bot.schedule, .integer bot.schedule)
      (hlookup (by decide) (by simp [botRows])) (natural64?_integer hschedule)
  have hnext : optional readInstant (botEntries bot) "next_run" = some bot.nextRun :=
    optional_eq _ (hlookup (by decide) (by simp [botRows])) fun t ht =>
      readInstant_instantValue (hinstants t (Or.inl ht))
  have hlast : optional readInstant (botEntries bot) "last_run" = some bot.lastRun :=
    optional_eq _ (hlookup (by decide) (by simp [botRows])) fun t ht =>
      readInstant_instantValue (hinstants t (Or.inr ht))
  have herror : optional readString (botEntries bot) "last_error" = some bot.lastError :=
    optional_eq _ (hlookup (by decide) (by simp [botRows])) fun s _ => readString_stringValue s
  have hscript : required readString (botEntries bot) "script" = some bot.script :=
    required_eq _ (hlookup (by decide) (by simp [botRows])) (readString_stringValue bot.script)
  have haccount : optional readCredentials (botEntries bot) "credentials"
      = some (some bot.credentials) := by
    rw [optional, botEntries, lookup_append_self (lookup_credentials bot)]
    exact congrArg (Option.map some) (readCredentials_entries bot.credentials)
  exact readBot_of_fields hid hname hdisabled hseconds hnext hlast herror hscript haccount

theorem mapM_map_of_forall {α β : Type} {f : β → Option α} {g : α → β} {l : List α}
    (h : ∀ a ∈ l, f (g a) = some a) : (l.map g).mapM f = some l := by
  induction l with
  | nil => rfl
  | cons a l ih =>
    obtain ⟨ha, hl⟩ := List.forall_mem_cons.mp h
    rw [List.map_cons, List.mapM_cons, ha, ih hl]
    rfl

/-- The document of a store without bots has an empty array. -/
theorem read?_encode_nil : read? (encode []).toList = some [("bots".toList, .array [])] := by
  have hfields : ∀ f ∈ [(⟨"bots", ['[', ']'], .array []⟩ : Field)], f.IsRead := by
    intro f hf
    rw [List.mem_singleton.mp hf]
    exact Field.isRead_array (isBare_of_all (by decide))
  have hnew : ∀ f ∈ [(⟨"bots", ['[', ']'], .array []⟩ : Field)],
      ([] : Entries).lookup f.key.toList = none := fun _ _ => rfl
  have htext : (encode []).toList
      = linesOf [(⟨"bots", ['[', ']'], .array []⟩ : Field)] ++ [] := by decide
  rw [htext, read?_eq (by decide)]
  refine (readStatements_linesOf isPlace_root hfields (by simp) hnew []).trans ?_
  rw [readStatements_nil]
  rfl

/-- **A store is read back from its text**: the same bots in the same order. -/
theorem decode?_encode {bots : List BotRecord}
    (hschedules : ∀ bot ∈ bots, bot.schedule < UInt64.size)
    (hinstants : ∀ bot ∈ bots, HasReadableInstants bot) :
    decode? (encode bots) = some bots := by
  by_cases hne : bots = []
  · rw [hne, decode?, read?_encode_nil, Option.bind_some, ofDocument, List.lookup_cons_self]
    rfl
  · have hbots : (bots.map fun bot => Value.table .headed (botEntries bot)).mapM readBot
        = some bots :=
      mapM_map_of_forall fun bot hbot => readBot_entries (hschedules bot hbot) (hinstants bot hbot)
    rw [decode?, read?_encode hne hschedules, Option.bind_some, ofDocument, List.lookup_cons_self,
      ← hbots]
    exact congrArg (·.mapM readBot) List.map_map

end GrammarBots.StoreText
