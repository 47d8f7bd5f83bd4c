import ProxyLink.Command.Run
import ProxyLink.Proofs.Frame.RoundTrip
import ProxyLink.Proofs.Registry
import ProxyLink.Proofs.Text.Hex

/-!
# Initialize requests on the command line

What one command prints, the other one reads: the digits of an initialize request are shown as that
request, however they are spaced and whatever the case of their letters. The main statement comes
last.
-/

namespace ProxyLink.Command

/-! ### What a request holds -/

/-- The properties of an initialize request, in the order of their keys. -/
def initializeEntries (address : String) (port : UInt16) (id : Option Int64) :
    List (String × String) :=
  [("LibraryAddress", address), ("LibraryPort", Decimal.ofNat port.toNat)] ++
    (id.map fun id => ("RequestId", Decimal.ofInt64 id)).toList

section

variable (address : String) (port : UInt16) (id : Option Int64)

theorem ofKind_initializeRequest :
    (initializeRequest address port id).OfKind .initializeRequest := ⟨rfl, rfl, rfl⟩

theorem entries_initializeRequest :
    (initializeRequest address port id).bag.entries = initializeEntries address port id := by
  have hport : keyBefore "LibraryAddress" "LibraryPort" := by decide +kernel
  have hid : keyBefore "LibraryPort" "RequestId" := by decide +kernel
  have hbase : (((Message.ofStandard .initializeRequest).write .libraryAddress
      (some address)).write .libraryPort (some (Decimal.ofNat port.toNat))).bag.entries =
        [("LibraryAddress", address), ("LibraryPort", Decimal.ofNat port.toNat)] :=
    putEntry_of_before _ (List.forall_mem_singleton.mpr hport)
  have hlast : ∀ e ∈ [("LibraryAddress", address), ("LibraryPort", Decimal.ofNat port.toNat)],
      keyBefore e.1 "RequestId" :=
    List.forall_mem_cons.mpr ⟨keyBefore_trans hport hid, List.forall_mem_singleton.mpr hid⟩
  cases id with
  | none =>
    have herase : (initializeRequest address port none).bag.entries =
        List.filter (fun e => e.1 != "RequestId") _ := rfl
    rw [herase, hbase, List.filter_eq_self.mpr, initializeEntries]
    · rfl
    · intro e he
      rw [bne_iff_ne]
      intro hkey
      exact keyBefore_irrefl _ (hkey ▸ hlast e he)
  | some id =>
    have hinsert : (initializeRequest address port (some id)).bag.entries =
        putEntry "RequestId" (Decimal.ofInt64 id) _ := rfl
    rw [hinsert, hbase, putEntry_of_before _ hlast]
    rfl

theorem display_initializeRequest : (initializeRequest address port id).display =
    "InitializeRequest(1)\n\x7b\n" ++
      String.join ((initializeEntries address port id).map fun e => s!"    {e.1}: {e.2}\n") ++
        "\x7d\n" := by
  have htype : (initializeRequest address port id).type.display = "InitializeRequest(1)" :=
    show MessageType.initializeRequest.display = _ by decide +kernel
  rw [Message.display, Bag.display, entries_initializeRequest, htype]
  simp only [String.append_assoc, toString]
  rfl

end

/-! ### The arguments -/

/-- A word that does not ask for help names a command, and the arguments of the command follow. -/
theorem read_of_plain {name : String} (hname : Argument.ofString name = .plain name)
    (hhelp : name ≠ "help") (config : Option String) (rest : List String) :
    read config (name :: rest) = (ofArguments name rest).map (config, ·) := by
  rw [read.eq_def]
  simp only [hname]

/-- A text without a hyphen is no option. -/
theorem ofString_of_hyphen_notMem {text : String} (h : '-' ∉ text.toList) :
    Argument.ofString text = .plain text := by
  rw [Argument.ofString]
  split
  · rfl
  · next hlist => exact absurd (hlist ▸ List.mem_cons_self) h
  · next hlist => exact absurd (hlist ▸ List.mem_cons_self) h
  · next hlist => exact absurd (hlist ▸ List.mem_cons_self) h
  · rfl

/-- A text without a hyphen is taken for the frame to show. -/
theorem read_decode {text : String} (h : '-' ∉ text.toList) :
    read none ["decode", text] = .ok (none, .decode text) := by
  have harguments : ofArguments "decode" [text] = .ok (.decode text) := by
    simp only [ofArguments, readOptions, ofString_of_hyphen_notMem h, once?, Option.map_some]
  rw [read_of_plain (by decide) (by decide), harguments]
  rfl

/-! ### Printed and shown again -/

/-- The frame that a text writes is shown as its message. -/
theorem showFrame_of_decode {registry : Registry} {m : Message} {text : String}
    {bytes : List UInt8} (htext : Hex.decode (String.ofList (Text.withoutBlanks text)) = .ok bytes)
    (hframe : Frame.decode registry bytes = .ok m) :
    showFrame registry text = .ok m.display := by
  rw [showFrame, htext]
  simp only [hframe]

/-- The digits of a frame are shown as its message, however they are spaced and whatever the case of
their letters. -/
theorem showFrame_of_restyled {registry : Registry} {k : StandardKind} {m : Message}
    (hkind : m.OfKind k) (hblank : registry.HasBlank k) (hshort : m.body.length < 2 ^ 32)
    {text : String} (htext : Hex.Restyled (Hex.encode m.frame) text.toList) :
    showFrame registry text = .ok m.display :=
  showFrame_of_decode (Hex.decode_of_restyled htext)
    (Frame.decode_frame_of_hasBlank hkind hblank hshort)

/-- One command prints the digits of the initialize request for an address, a port and perhaps an
id, where the configuration stands in for the first two. These digits, with blanks put in anywhere
and the case of letters changed anywhere, are arguments of the command that shows frames, and under
any configuration it shows an initialize request with the address, the port, and the id exactly if
there is one. -/
theorem shown_as_printed {config : Config} {address : Option String} {port : Option UInt16}
    {id : Option Int64} (hshort : (initializeRequest (address.getD config.proxy.address)
      (port.getD config.proxy.port) id).body.length < 2 ^ 32) :
    let entries :=
      initializeEntries (address.getD config.proxy.address) (port.getD config.proxy.port) id
    let shown := "InitializeRequest(1)\n\x7b\n" ++
      String.join (entries.map fun e => s!"    {e.1}: {e.2}\n") ++ "\x7d\n"
    (∃ m : Message, m.OfKind .initializeRequest ∧ m.bag.entries = entries ∧ m.display = shown) ∧
      ∃ digits : List Char,
        run config (.encodeInitialize address port id) = (String.ofList digits ++ "\n", none) ∧
          ∀ (config' : Config) (text : String), Hex.Restyled digits text.toList →
            read none ["decode", text] = .ok (none, .decode text) ∧
              run config' (.decode text) = (shown, none) := by
  intro entries shown
  let request :=
    initializeRequest (address.getD config.proxy.address) (port.getD config.proxy.port) id
  have hkind : request.OfKind .initializeRequest := ofKind_initializeRequest ..
  have hdisplay : request.display = shown := display_initializeRequest ..
  refine ⟨⟨request, hkind, entries_initializeRequest .., hdisplay⟩, Hex.encode request.frame, rfl,
    ?_⟩
  intro config' text htext
  have hyphen : '-' ∉ text.toList := by
    rw [Hex.encode_eq_map_halves] at htext
    exact htext.hyphen_notMem fun n => Hex.lt_of_mem_halves
  refine ⟨read_decode hyphen, ?_⟩
  have hshow := showFrame_of_restyled hkind (Registry.hasBlank_standard _) hshort htext
  rw [hdisplay] at hshow
  simp only [run, hshow]

/-- A request for an address that is not ASCII, with an id below zero. Its digits are read with
blanks around them and within a byte, and with capitals. -/
theorem shown_as_printed_with_capitals :
    let request : Command := .encodeInitialize (some "é") none (some (-1))
    let text := "\u20034D000000 01000000 03000000\n" ++
      "0E000000 4C696272617279416464726573730 102000000C3a9\n" ++
      "0b000000 4C696272617279506F7274 01 04000000 37393333\n" ++
      "09000000 52657175657374496401020000002D31\u00A0\n"
    (run .default request).1 = "4d0000000100000003000000" ++
      "0e0000004c696272617279416464726573730102000000c3a9" ++
      "0b0000004c696272617279506f7274010400000037393333" ++
      "0900000052657175657374496401020000002d31\n" ∧
    (initializeRequest "é" 7933 (some (-1))).body.length < 2 ^ 32 ∧
    read none ["decode", text] = .ok (none, .decode text) ∧
    run .default (.decode text) = ("InitializeRequest(1)\n\x7b\n    LibraryAddress: é\n" ++
      "    LibraryPort: 7933\n    RequestId: -1\n\x7d\n", none) := by
  intro request text
  have hshort : (initializeRequest "é" 7933 (some (-1))).body.length < 2 ^ 32 := by decide +kernel
  obtain ⟨-, digits, hprinted, hshown⟩ :=
    @shown_as_printed .default (some "é") none (some (-1)) hshort
  have hdigits : digits = Hex.encode (initializeRequest "é" 7933 (some (-1))).frame :=
    (String.ofList_injective ((String.append_left_inj _).mp (congrArg Prod.fst hprinted))).symm
  have htext : Hex.Restyled digits text.toList := by
    rw [hdigits]
    decide +kernel
  obtain ⟨hread, hrun⟩ := hshown .default text htext
  refine ⟨by decide +kernel, hshort, hread, hrun.trans ?_⟩
  decide +kernel

end ProxyLink.Command
