import TableStructs.Main
import TableStructs.Session
import TableStructs.Proofs.Reading
import TableStructs.Proofs.Run
import TableStructs.Proofs.Agreement
import TableStructs.Proofs.BlockSemantics
import TableStructs.Proofs.Repair
import TableStructs.Proofs.Concatenation
import TableStructs.Proofs.PrintedDump
import TableStructs.Proofs.FailedCall
import TableStructs.Proofs.TextAndFile
import TableStructs.Proofs.TwoTools
import TableStructs.Proofs.Layout
import TableStructs.Proofs.Names
import TableStructs.Proofs.ReadBack
import TableStructs.Proofs.Legible
import TableStructs.Proofs.FileEffects
import TableStructs.Proofs.GoGrammar
import TableStructs.Proofs.Marks
import TableStructs.Proofs.Replies
import TableStructs.Proofs.Memory
import TableStructs.Proofs.SessionSettings
import TableStructs.Proofs.NamelessHeader
import TableStructs.Proofs.Warnings
import TableStructs.Proofs.Deletion
import TableStructs.Proofs.Accounts
import TableStructs.Proofs.LostTables
import TableStructs.Proofs.NameClashes
import TableStructs.Proofs.Untagged
import TableStructs.Proofs.Extension
import TableStructs.Proofs.JsonBlock
import TableStructs.Proofs.Messages
import TableStructs.Proofs.ReportText
import TableStructs.Proofs.CamelCase
import TableStructs.Proofs.StructNames
import TableStructs.Proofs.Alignment
import TableStructs.Proofs.TypeLookup
import TableStructs.Proofs.NormalPath
