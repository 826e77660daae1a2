/-
Roster.Text.BidiTable — the bidirectional class of characters in Unicode 15.

A row of the text gives a range of characters and the number of their class,
all in base 36; characters in no row have the class `L`.
-/
import Roster.Text.Rows

namespace Roster.Text

/-- The bidirectional classes that the rules for labels tell apart. -/
inductive BidiClass where
  | l
  | r
  | al
  | en
  | an
  | es
  | cs
  | et
  | on
  | bn
  | nsm
  /-- All classes that may stand in no label of a mixed name. -/
  | other
  deriving DecidableEq, Repr

namespace BidiClass

/-- The classes in the order of their numbers. -/
def all : List BidiClass := [l, r, al, en, an, es, cs, et, on, bn, nsm, other]

def ranges : Array (List Nat) := rows
  "0,8,9 9,9,b a,a,b b,b,b c,c,b d,d,b e,r,9 s,u,b v,v,b w,w,b x,y,8 z,11,7 12,16,8 17,17,5
  18,18,6 19,19,5 1a,1b,6 1c,1l,3 1m,1m,6 1n,1s,8 2j,2o,8 3f,3i,8 3j,3o,9 3p,3p,b 3q,4f,9
  4g,4g,6 4h,4h,8 4i,4l,7 4m,4p,8 4r,4s,8 4t,4t,9 4u,4v,8 4w,4x,7 4y,4z,3 50,50,8 52,54,8
  55,55,3 57,5b,8 5z,5z,8 6v,6v,8 jd,je,8 jm,jz,8 k2,kf,8 kl,kt,8 kv,lb,8 lc,of,a ok,ol,8
  ou,ou,8 p0,p1,8 p3,p3,8 s6,s6,8 w3,w9,a 13e,13e,8 13h,13i,8 13j,13j,7 13k,13k,1 13l,14t,a
  14u,14u,1 14v,14v,a 14w,14w,1 14x,14y,a 14z,14z,1 150,151,a 152,152,1 153,153,a 154,16n,1
  16o,16t,4 16u,16v,8 16w,16w,2 16x,16y,7 16z,16z,2 170,170,6 171,171,2 172,173,8 174,17e,a
  17f,18q,2 18r,19b,a 19c,19l,4 19m,19m,7 19n,19o,4 19p,19r,2 19s,19s,a 19t,1cl,2 1cm,1cs,a
  1ct,1ct,4 1cu,1cu,8 1cv,1d0,a 1d1,1d2,2 1d3,1d4,a 1d5,1d5,8 1d6,1d9,a 1da,1db,2 1dc,1dl,3
  1dm,1e8,2 1e9,1e9,a 1ea,1f3,2 1f4,1fu,a 1fv,1id,2 1ie,1io,a 1ip,1j3,2 1j4,1ka,1 1kb,1kj,a
  1kk,1kl,1 1km,1kp,8 1kq,1ks,1 1kt,1kt,a 1ku,1lh,1 1li,1ll,a 1lm,1lm,1 1ln,1lv,a 1lw,1lw,1
  1lx,1lz,a 1m0,1m0,1 1m1,1m5,a 1m6,1nc,1 1nd,1nf,a 1ng,1nj,1 1nk,1ov,2 1ow,1ox,4 1oy,1p3,2
  1p4,1pb,a 1pc,1qh,2 1qi,1r5,a 1r6,1r6,4 1r7,1s2,a 1tm,1tm,a 1to,1to,a 1tt,1u0,a 1u5,1u5,a
  1u9,1uf,a 1uq,1ur,a 1vl,1vl,a 1x8,1x8,a 1xd,1xg,a 1xp,1xp,a 1ya,1yb,a 1yq,1yr,7 1yz,1yz,7
  1z2,1z2,a 1z5,1z6,a 20s,20s,a 20x,20y,a 213,214,a 217,219,a 21d,21d,a 228,229,a 22d,22d,a
  22p,22q,a 24c,24c,a 24h,24l,a 24n,24o,a 24t,24t,a 25e,25f,a 25t,25t,7 262,267,a 269,269,a
  27w,27w,a 27z,27z,a 281,284,a 28d,28d,a 28l,28m,a 28y,28z,a 29u,29u,a 2bk,2bk,a 2bx,2bx,a
  2cz,2d4,8 2d5,2d5,7 2d6,2d6,8 2dc,2dc,a 2dg,2dg,a 2f0,2f0,a 2f2,2f4,a 2fa,2fc,a 2fe,2fh,a
  2fp,2fq,a 2g2,2g3,a 2go,2gu,8 2gx,2gx,a 2ik,2ik,a 2j0,2j1,a 2jm,2jn,a 2kg,2kh,a 2m3,2m4,a
  2m9,2mc,a 2ml,2ml,a 2n6,2n7,a 2o1,2o1,a 2q2,2q2,a 2qa,2qc,a 2qe,2qe,a 2sx,2sx,a 2t0,2t6,a
  2tb,2tb,7 2tj,2tq,a 2wh,2wh,a 2wk,2ws,a 2x4,2xa,a 2zc,2zd,a 305,305,a 307,307,a 309,309,a
  30a,30d,8 31t,326,a 328,32c,a 32e,32f,a 32l,32v,a 32x,33w,a 346,346,a 371,374,a 376,37b,a
  37d,37e,a 37h,37i,a 388,389,a 38e,38g,a 38x,390,a 39e,39e,a 39h,39i,a 39p,39p,a 3a5,3a5,a
  3tp,3tr,a 3v4,3vd,8 3y8,3y8,8 4g0,4g0,b 4gr,4gs,8 4k2,4k4,a 4ky,4kz,a 4lu,4lv,a 4mq,4mr,a
  4ok,4ol,a 4on,4ot,a 4p2,4p2,a 4p5,4pf,a 4pn,4pn,7 4pp,4pp,a 4q8,4qh,8 4qo,4qy,8 4qz,4r1,a
  4r2,4r2,9 4r3,4r3,a 4ud,4ue,a 4vd,4vd,a 4yo,4yq,a 4yv,4yw,a 4z6,4z6,a 4zd,4zf,a 4zk,4zk,8
  4zo,4zp,8 53y,54v,8 55j,55k,a 55n,55n,a 57a,57a,a 57c,57i,a 57k,57k,a 57m,57m,a 57p,57w,a
  583,58c,a 58f,58f,a 59s,5am,a 5c0,5c3,a 5dg,5dg,a 5di,5dm,a 5do,5do,a 5du,5du,a 5ez,5f7,a
  5fk,5fl,a 5gi,5gl,a 5go,5gp,a 5gr,5gt,a 5ie,5ie,a 5ig,5ih,a 5il,5il,a 5in,5ip,a 5kc,5kj,a
  5km,5kn,a 5ow,5oy,a 5p0,5pc,a 5pe,5pk,a 5pp,5pp,a 5pw,5pw,a 5q0,5q1,a 5vk,5xb,a 69p,69p,8
  69r,69t,8 6a5,6a7,8 6al,6an,8 6b1,6b3,8 6bh,6bi,8 6bk,6bu,b 6bv,6bx,9 6bz,6bz,1 6c0,6cn,8
  6co,6co,b 6cp,6cp,b 6cq,6cq,b 6cr,6cr,b 6cs,6cs,b 6ct,6ct,b 6cu,6cu,b 6cv,6cv,6 6cw,6d0,7
  6d1,6df,8 6dg,6dg,6 6dh,6e6,8 6e7,6e7,b 6e8,6ed,9 6ee,6ee,b 6ef,6ef,b 6eg,6eg,b 6eh,6eh,b
  6ei,6en,9 6eo,6eo,3 6es,6ex,3 6ey,6ez,5 6f0,6f2,8 6f4,6fd,3 6fe,6ff,5 6fg,6fi,8 6g0,6hb,7
  6hc,6i8,a 6io,6ip,8 6ir,6iu,8 6iw,6ix,8 6j8,6j8,8 6ja,6jc,8 6ji,6jn,8 6jp,6jp,8 6jr,6jr,8
  6jt,6jt,8 6jy,6jy,7 6ka,6kb,8 6kg,6kk,8 6kq,6kt,8 6kw,6lb,8 6mh,6mj,8 6mo,6q9,8 6qa,6qa,5
  6qb,6qb,7 6qc,6yd,8 70b,710,8 712,752,8 75s,762,8 76o,77r,8 77s,78b,3 7ai,7mz,8 7n1,7wf,8
  83k,8kz,8 8l2,8lx,8 8lz,8ov,8 8v9,8ve,8 8vj,8vl,a 8vt,8vz,8 8zj,8zj,a 928,933,a 934,95p,8
  96o,97d,8 97f,99v,8 9a8,9g5,8 9gw,9h7,8 9hc,9hc,b 9hd,9hg,8 9hk,9i8,8 9ii,9il,a 9io,9io,8
  9iu,9iv,8 9j1,9j3,8 9ll,9lm,a 9ln,9lo,8 9ls,9ls,8 9ob,9ob,8 9ts,9ur,8 9wd,9we,8 9xs,9y7,8
  9z0,9z2,8 a0h,a0v,8 a18,a1b,8 a5z,a62,8 a8u,a8v,8 a9r,a9r,8 fcw,fen,8 wi8,wjq,8 wst,wsv,8
  wvj,wvm,a wvn,wvn,8 wvo,wvx,a wvy,wvz,8 wwu,wwv,a wz4,wz5,a wzk,x0h,8 x3c,x3c,8 x6q,x6q,a
  x6u,x6u,a x6z,x6z,a x7p,x7q,a x7s,x7v,8 x7w,x7w,a x88,x89,7 x9w,x9z,8 xc4,xc5,a xcw,xdd,a
  xdr,xdr,a xeu,xf1,a xfr,xg1,a xhc,xhe,a xir,xir,a xiu,xix,a xj0,xj1,a xk5,xk5,a xm1,xm6,a
  xm9,xma,a xmd,xme,a xmr,xmr,a xn0,xn0,a xoc,xoc,a xps,xps,a xpu,xpw,a xpz,xq0,a xq6,xq7,a
  xq9,xq9,a xrg,xrh,a xrq,xrq,a xuy,xuz,8 xyd,xyd,a xyg,xyg,a xyl,xyl,a 1dlp,1dlp,1
  1dlq,1dlq,a 1dlr,1dm0,1 1dm1,1dm1,5 1dm2,1dn3,1 1dn4,1e0t,2 1e0u,1e1b,8 1e1c,1e4u,2
  1e4v,1e4v,8 1e4w,1e5r,9 1e5s,1e64,2 1e65,1e67,8 1e68,1e6n,a 1e6o,1e6x,8 1e74,1e7j,a
  1e7k,1e8f,8 1e8g,1e8g,6 1e8h,1e8h,8 1e8i,1e8i,6 1e8k,1e8k,8 1e8l,1e8l,6 1e8m,1e8u,8
  1e8v,1e8v,7 1e8w,1e8x,8 1e8y,1e8z,5 1e90,1e92,8 1e94,1e94,8 1e95,1e96,7 1e97,1e97,8
  1e9c,1eda,2 1edb,1edb,9 1edd,1ede,8 1edf,1edh,7 1edi,1edm,8 1edn,1edn,5 1edo,1edo,6
  1edp,1edp,5 1edq,1edr,6 1eds,1ee1,3 1ee2,1ee2,6 1ee3,1ee8,8 1eez,1ef4,8 1efv,1eg5,8
  1ejk,1ejl,7 1ejm,1ejo,8 1ejp,1ejq,7 1ejs,1ejy,8 1ek0,1ek8,9 1ek9,1ekd,8 1eke,1ekf,9
  1erl,1erl,8 1etc,1evg,8 1evk,1evw,8 1ew0,1ew0,8 1eyl,1eyl,a 1f4w,1f4w,a 1f4x,1f5n,3
  1f92,1f96,a 1g5c,1gda,1 1gdb,1gdb,8 1gdc,1gjk,1 1gjl,1gjn,a 1gjo,1gjo,1 1gjp,1gjq,a
  1gjr,1gjv,1 1gjw,1gjz,a 1gk0,1gl3,1 1gl4,1gl6,a 1gl7,1gla,1 1glb,1glb,a 1glc,1gpw,1
  1gpx,1gpy,a 1gpz,1gs8,1 1gs9,1gsf,8 1gsg,1h4v,1 1h4w,1h5v,2 1h5w,1h5z,a 1h60,1h67,2
  1h68,1h6h,4 1h6i,1h6n,2 1h6o,1hen,1 1heo,1hfi,4 1hfj,1hgq,1 1hgr,1hgs,a 1hgt,1hhb,1
  1hhc,1hj0,2 1hj1,1hj3,a 1hj4,1hkf,1 1hkg,1hl1,2 1hl2,1hlc,a 1hld,1hm7,2 1hm8,1hmp,1
  1hmq,1hmt,a 1hmu,1hq7,1 1hq9,1hq9,a 1hrs,1hs6,a 1hsi,1ht1,8 1htc,1htc,a 1htf,1htg,a
  1htr,1htt,a 1hv7,1hva,a 1hvd,1hve,a 1hvm,1hvm,a 1hxc,1hxe,a 1hyf,1hyj,a 1hyl,1hys,a
  1i0j,1i0j,a 1i0w,1i0x,a 1i2e,1i2m,a 1i2x,1i30,a 1i33,1i33,a 1i5r,1i5t,a 1i5w,1i5w,a
  1i5y,1i5z,a 1i66,1i66,a 1i69,1i69,a 1ian,1ian,a 1iar,1iay,a 1ibk,1ibl,a 1id7,1id8,a
  1idc,1idc,a 1iee,1iek,a 1ieo,1ies,a 1ik8,1ikf,a 1iki,1ikk,a 1ikm,1ikm,a 1ila,1ila,a
  1inn,1ins,a 1inu,1inu,a 1inz,1io0,a 1io2,1io3,a 1iuq,1iut,a 1iv0,1iv1,a 1iv3,1iv4,a
  1ivw,1ivx,a 1iyb,1iyi,a 1iyl,1iyl,a 1iyn,1iyo,a 1izk,1izw,8 1j1n,1j1n,a 1j1p,1j1p,a
  1j1s,1j1x,a 1j1z,1j1z,a 1j4t,1j4v,a 1j4y,1j51,a 1j53,1j57,a 1jcf,1jcn,a 1jcp,1jcq,a
  1jjv,1jjw,a 1jjy,1jjy,a 1jk3,1jk3,a 1jo4,1jo7,a 1joa,1job,a 1jog,1jog,a 1jpd,1jpi,a
  1jpl,1jpm,a 1jqr,1jqw,a 1jqz,1jr2,a 1jrb,1jrb,a 1jrl,1jrq,a 1jrt,1jrv,a 1jt6,1jti,a
  1jtk,1jtl,a 1k4w,1k52,a 1k54,1k59,a 1k7m,1k87,a 1k8a,1k8g,a 1k8i,1k8j,a 1k8l,1k8m,a
  1kc1,1kc6,a 1kca,1kca,a 1kcc,1kcd,a 1kcf,1kcl,a 1kcn,1kcn,a 1keo,1kep,a 1ket,1ket,a
  1kev,1kev,a 1koj,1kok,a 1kow,1kox,a 1kqe,1kqi,a 1kqo,1kqo,a 1kqq,1kqq,a 1kut,1kv0,8
  1kv1,1kv4,7 1kv5,1kvl,8 1ow0,1ow0,a 1ow7,1owl,a 1zow,1zp0,a 1zqo,1zqu,a 20jz,20jz,a
  20lr,20lu,a 20o2,20o2,8 20o4,20o4,a 2ftp,2ftq,a 2fts,2ftv,9 2jgg,2jhp,a 2jhs,2jie,a
  2jxj,2jxl,a 2jxv,2jy2,9 2jy3,2jya,a 2jyd,2jyj,a 2jze,2jzh,a 2k15,2k16,8 2k1s,2k3l,8
  2k3m,2k3o,a 2k3p,2k3p,8 2k8w,2kba,8 2l0b,2l0b,8 2l1x,2l1x,8 2l3j,2l3j,8 2l55,2l55,8
  2l6r,2l6r,8 2l72,2l8f,3 2lmo,2lo6,a 2lob,2lpo,a 2lpx,2lpx,a 2lqc,2lqc,a 2lqz,2lr3,a
  2lr5,2lrj,a 2mtc,2mti,a 2mtk,2mu0,a 2mu3,2mu9,a 2mub,2muc,a 2mue,2mui,a 2mxb,2mxb,a
  2n1s,2n1y,a 2nce,2nce,a 2ne4,2ne7,a 2nen,2nen,7 2nsc,2nsf,a 2oe8,2ojz,1 2ok0,2ok6,a
  2ok7,2on7,1 2on8,2one,a 2onf,2p9r,1 2p9s,2pbz,2 2pc0,2pdr,1 2pds,2pfz,2 2pg0,2pkv,1
  2pkw,2prj,2 2prk,2prl,8 2prm,2prz,2 2ps0,2pz3,1 2pz4,2q0b,8 2q0g,2q37,8 2q3k,2q3y,8
  2q41,2q4f,8 2q4h,2q4v,8 2q4x,2q5x,8 2q68,2q6i,3 2q6j,2q6n,8 2q7j,2q7j,8 2q96,2q9b,8
  2qb1,2qb1,8 2qg0,2qg5,8 2qkg,2rbr,8 2rbw,2rcc,8 2rcg,2rcs,8 2rcw,2rg6,8 2rgb,2rix,8
  2rj4,2rjf,8 2rjk,2rjk,8 2rk0,2rkb,8 2rkg,2rlz,8 2rm8,2rmh,8 2rmo,2rnr,8 2ro0,2rot,8
  2row,2rox,8 2rr4,2s0j,8 2s0w,2s19,8 2s1c,2s1o,8 2s1s,2s20,8 2s28,2s3h,8 2s3j,2s3p,8
  2s3y,2s4b,8 2s4g,2s4o,8 2s4w,2s54,8 2s5c,2s9e,8 2s9g,2say,8 2sc0,2sc9,3 2t4u,2t4v,9
  47pa,47pb,9 5m9q,5m9r,9 70u6,70u7,9 8fem,8fen,9 9tz2,9tz3,9 b8ji,b8jj,9 cn3y,cn3z,9
  e1oe,e1of,9 fg8u,fg8v,9 guta,gutb,9 i9dq,i9dr,9 jny6,jo5b,9 jo5c,jobz,a joc0,jr3z,9
  l2im,l2in,9 mh32,mh33,9 nvni,nvnj,9"

/-- The class of a character. -/
def of (c : Char) : BidiClass :=
  match ranges.find? (inRow c.toNat) with
  | some [_, _, k] => all.getD k other
  | _ => l

end BidiClass

end Roster.Text
