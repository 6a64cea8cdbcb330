import Gamecard.Card.Guarded
import Gamecard.Card.Refresh
import Gamecard.Card.Usage
import Gamecard.CommandLine
import Gamecard.FileSystem.Extraction
import Gamecard.FileSystem.Image
import Gamecard.FileSystem.Walk
import Gamecard.Json.NumberReader
import Gamecard.Key.Derivation
import Gamecard.Key.Ingestion
import Gamecard.Key.Operation
import Gamecard.KeyFile.Loading
import Gamecard.Main
import Gamecard.Proofs.Card.Guarded
import Gamecard.Proofs.Card.Partitions
import Gamecard.Proofs.Derivation.ClosedForm
import Gamecard.Proofs.Derivation.Idempotence
import Gamecard.Proofs.FileSystem.Grammar
import Gamecard.Proofs.FileSystem.RoundTrip
import Gamecard.Proofs.Key.Dump
import Gamecard.Proofs.Storage.Pages
import Gamecard.Proofs.Storage.Positions
import Gamecard.Proofs.Storage.Tower
import Gamecard.Proofs.FileSystem.Extraction
import Gamecard.Proofs.FileSystem.PlainNames
import Gamecard.Session
import Gamecard.Storage.Reader
import Gamecard.Proofs.Card.Usage
import Gamecard.Proofs.Card.Addressing
import Gamecard.Proofs.Card.Integrity
import Gamecard.Proofs.Card.Undecrypted
import Gamecard.Proofs.FileSystem.Lookup
import Gamecard.Proofs.Card.CutOut
import Gamecard.Proofs.Session.History
import Gamecard.Proofs.Key.Spelling
import Gamecard.Proofs.Text.HexReading
import Gamecard.Proofs.Key.TitleKeys
import Gamecard.Proofs.Cipher.Rounds
import Gamecard.Proofs.Cipher.Modes
import Gamecard.Proofs.Key.Keyblob
import Gamecard.Proofs.Card.HeaderCipher
import Gamecard.Proofs.Key.Ingestion
import Gamecard.Proofs.Key.Registration
import Gamecard.Proofs.Key.TitleKeyOrder
import Gamecard.Proofs.FileSystem.TableDigest
import Gamecard.Proofs.FileSystem.Verification
import Gamecard.Proofs.Storage.Seeking
import Gamecard.Proofs.Files.Writing
import Gamecard.Proofs.Storage.Draining
import Gamecard.Proofs.Storage.LeastCover
import Gamecard.Proofs.FileSystem.WholeCopies
import Gamecard.Proofs.FileSystem.Walking
import Gamecard.Proofs.Card.Structures
import Gamecard.Proofs.Key.Loading
import Gamecard.Proofs.CommandLine.Refusals
import Gamecard.Proofs.Json.HexString
