import ClassPool.Pool.Build
import ClassPool.Pool.Encode
import ClassPool.Main
import ClassPool.Proofs.Text.Sequences
import ClassPool.Proofs.Text.Forms
import ClassPool.Proofs.Cursor
import ClassPool.Proofs.Entry.Grammar
import ClassPool.Proofs.Pool.Records
import ClassPool.Proofs.Pool.Decoding
import ClassPool.Proofs.Entry.Written
import ClassPool.Proofs.Pool.Written
import ClassPool.Proofs.Pool.RoundTrip
import ClassPool.Proofs.ClassFile.Parsing
import ClassPool.Proofs.Pool.Table
import ClassPool.Proofs.Pool.Rebuilding
import ClassPool.Proofs.Truncation
import ClassPool.Proofs.Pool.Locality
import ClassPool.Proofs.ClassFile.Gate
import ClassPool.Proofs.Dump.Independence
import ClassPool.Proofs.Entry.Shown
import ClassPool.Proofs.Dump.Listing
import ClassPool.Proofs.Text.Faults
import ClassPool.Proofs.Text.Agreement
import ClassPool.Proofs.Text.Canonical
import ClassPool.Proofs.LimitedRoom
import ClassPool.Proofs.Pool.Log
import ClassPool.Proofs.Ieee
import ClassPool.Proofs.Pool.Equality
import ClassPool.Proofs.Numeral
import ClassPool.Proofs.Text.Quoted
import ClassPool.Proofs.Decimal.Positional
import ClassPool.Proofs.Entry.Displayed
