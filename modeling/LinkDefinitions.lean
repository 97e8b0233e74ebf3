import LinkDefinitions.Cursor
import LinkDefinitions.Document
import LinkDefinitions.Proofs.Additions
import LinkDefinitions.Proofs.BareDestination
import LinkDefinitions.Proofs.CursorLoops
import LinkDefinitions.Proofs.Document
import LinkDefinitions.Proofs.LineByLine
import LinkDefinitions.Proofs.Matching
import LinkDefinitions.Proofs.ParagraphText
import LinkDefinitions.Proofs.Parser.Abandoned
import LinkDefinitions.Proofs.Parser.Groups
import LinkDefinitions.Proofs.Parser.Interleaved
import LinkDefinitions.Proofs.Parser.Limit
import LinkDefinitions.Proofs.Parser.Literals
import LinkDefinitions.Proofs.Parser.Notices
import LinkDefinitions.Proofs.Parser.Unfinished
import LinkDefinitions.Proofs.Parser.Walk
import LinkDefinitions.Proofs.Spelling
